import DeclarativeForm.Pattern.Machine
import DeclarativeForm.Pattern.Reader
import DeclarativeForm.Pattern.Verdict

/-!
Looking for a pattern in a text. A program always comes to an answer of its own, so that only the
pattern decides whether it has a meaning.
-/

set_option autoImplicit false

namespace DeclarativeForm.Pattern

/-- Looks for a pattern in a text. A regular pattern is matched directly, and any other one by a
program. -/
def search (pattern text : String) : Verdict :=
  let text := text.toList.toArray
  match Source.read pattern with
  | none => .invalid
  | some ⟨expr, groups, referenced⟩ =>
    if expr.isRegular referenced then
      if expr.isMeaningful then (if expr.occursIn text then .found else .absent) else .invalid
    else match expr.program referenced groups with
      | some program => program.run text
      | none => .invalid

theorem Run.retry_ne_invalid (run : Run) : run.retry ≠ .error .invalid := by
  unfold Run.retry
  split
  · simp
  · split <;> simp

theorem Run.afterFailure_ne_invalid (run : Run) (instruction : Instruction) :
    run.afterFailure instruction ≠ .error .invalid := by
  unfold Run.afterFailure
  split
  · exact Run.retry_ne_invalid _
  · exact Run.retry_ne_invalid _

/-- A program always comes to an answer of its own. -/
theorem Run.verdict_ne_invalid (program : Program) (text : Array Char) (steps : Nat) (run : Run) :
    Run.verdict program text steps run ≠ .invalid := by
  induction steps generalizing run with
  | zero => simp [Run.verdict]
  | succ steps ih =>
      rw [Run.verdict]
      split
      · simp
      · rename_i instruction _
        split
        · exact ih _
        · cases failed : run.afterFailure instruction with
          | ok next => exact ih next
          | error verdict =>
              rintro rfl
              exact run.afterFailure_ne_invalid instruction failed

theorem search_invalid_congr {source text : String} (invalid : search source text = .invalid)
    (other : String) : search source other = .invalid := by
  unfold search at invalid ⊢
  cases read : Source.read source with
  | none => rfl
  | some parsed =>
      obtain ⟨expr, groups, referenced⟩ := parsed
      rw [read] at invalid
      by_cases regular : expr.isRegular referenced = true
      · simp only [regular, if_true] at invalid ⊢
        by_cases meaningful : expr.isMeaningful = true
        · simp only [meaningful, if_true] at invalid
          split at invalid <;> cases invalid
        · exact if_neg meaningful
      · simp only [if_neg regular] at invalid ⊢
        cases compiled : expr.program referenced groups with
        | none => rfl
        | some program =>
            rw [compiled] at invalid
            exact absurd invalid (Run.verdict_ne_invalid program _ _ _)

def Matcher.standard : Matcher := ⟨Pattern.search, Pattern.search_invalid_congr⟩

end DeclarativeForm.Pattern
