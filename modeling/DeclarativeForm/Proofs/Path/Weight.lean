import DeclarativeForm.Proofs.Path.Numeral

/-!
Keys move down. The weight of a key is the sum of the indices written in it; the removal of an item
leaves a key as it is, takes it away, or takes one from its weight. So a key that was moved is never
moved back.
-/

set_option autoImplicit false

namespace DeclarativeForm

open FieldPath

/-- The index that is closed by the first bracket of a text, or zero. -/
def indexAhead (text : List Char) : Nat :=
  match splitAtBracket text with
  | some (digits, _) => (bracketedIndex? digits).getD 0
  | none => 0

def weight : List Char → Nat
  | [] => 0
  | c :: rest => (if c = '[' then indexAhead rest else 0) + weight rest

def keyWeight (key : String) : Nat := weight key.toList

theorem stripStart_eq_some {start text rest : List Char}
    (left : stripStart start text = some rest) : text = start ++ rest := by
  induction start generalizing text with
  | nil =>
      cases left
      rfl
  | cons expected start ih =>
      cases text with
      | nil => cases left
      | cons c text =>
          simp only [stripStart] at left
          split at left
          · rename_i same
            subst c
            exact congrArg (expected :: ·) (ih left)
          · cases left

theorem splitAtBracket_eq_some {text before after : List Char}
    (split : splitAtBracket text = some (before, after)) : text = before ++ ']' :: after := by
  induction text generalizing before with
  | nil => cases split
  | cons c rest ih =>
      simp only [splitAtBracket] at split
      split at split
      · rename_i same
        cases split
        rw [same]
        rfl
      · obtain ⟨⟨inner, outer⟩, found, same⟩ := Option.map_eq_some_iff.mp split
        cases same
        exact congrArg (c :: ·) (ih found)

theorem splitAtBracket_append {before : List Char} (clean : ']' ∉ before) (after : List Char) :
    splitAtBracket (before ++ ']' :: after) = some (before, after) := by
  induction before with
  | nil => rfl
  | cons c rest ih =>
      have different : c ≠ ']' := by
        intro same
        exact clean (same ▸ List.mem_cons_self)
      have later := ih fun member => clean (List.mem_cons_of_mem _ member)
      simp only [List.cons_append, splitAtBracket, if_neg different, later, Option.map_some]

private theorem indexAhead_open {before : List Char} (clean : ']' ∉ before) (rest : List Char) :
    indexAhead (before ++ '[' :: rest) = 0 := by
  unfold indexAhead
  cases split : splitAtBracket (before ++ '[' :: rest) with
  | none => rfl
  | some parts =>
      obtain ⟨digits, outer⟩ := parts
      have bracket : '[' ∈ digits := by
        rcases List.append_eq_append_iff.mp (splitAtBracket_eq_some split) with
          ⟨inner, digitsAre, later⟩ | ⟨inner, beforeIs, later⟩
        · cases inner with
          | nil => cases later
          | cons c inner =>
              cases later
              rw [digitsAre]
              exact List.mem_append_right _ List.mem_cons_self
        · cases inner with
          | nil => cases later
          | cons c inner =>
              cases later
              rw [beforeIs] at clean
              exact absurd (List.mem_append_right _ List.mem_cons_self) clean
      cases read : bracketedIndex? digits with
      | none => simp only [read, Option.getD_none]
      | some position =>
          exact absurd bracket (not_mem_of_bracketedIndex? read (by decide) (by decide))

/-- What is ahead of a bracket does not depend on what follows the next opening bracket. -/
private theorem indexAhead_append (before first second : List Char) :
    indexAhead (before ++ '[' :: first) = indexAhead (before ++ '[' :: second) := by
  by_cases closed : ']' ∈ before
  · obtain ⟨digits, rest, same, clean⟩ := List.eq_append_cons_of_mem closed
    simp only [same, List.append_assoc, List.cons_append, indexAhead, splitAtBracket_append clean]
  · rw [indexAhead_open closed, indexAhead_open closed]

private theorem weight_append_of_not_mem {before : List Char} (clean : '[' ∉ before)
    (rest : List Char) : weight (before ++ rest) = weight rest := by
  induction before with
  | nil => rfl
  | cons c before ih =>
      have different : c ≠ '[' := by
        intro same
        exact clean (same ▸ List.mem_cons_self)
      have later := ih fun member => clean (List.mem_cons_of_mem _ member)
      simp only [List.cons_append, weight, if_neg different, Nat.zero_add, later]

private theorem weight_bracket {digits : List Char} {position : Nat}
    (read : bracketedIndex? digits = some position) (rest : List Char) :
    weight ('[' :: (digits ++ ']' :: rest)) = position + weight rest := by
  have opening : '[' ∉ digits := not_mem_of_bracketedIndex? read (by decide) (by decide)
  have closing : ']' ∉ digits := not_mem_of_bracketedIndex? read (by decide) (by decide)
  have ahead : indexAhead (digits ++ ']' :: rest) = position := by
    simp only [indexAhead, splitAtBracket_append closing, read, Option.getD_some]
  rw [weight, if_pos rfl, ahead, weight_append_of_not_mem opening, weight, if_neg (by decide),
    Nat.zero_add]

/-- Replacing one bracketed index changes the weight by as much as the index. -/
private theorem weight_replace {first second : List Char} {larger smaller : Nat}
    (one : bracketedIndex? first = some larger) (two : bracketedIndex? second = some smaller)
    (before rest : List Char) :
    weight (before ++ '[' :: (first ++ ']' :: rest)) + smaller =
      weight (before ++ '[' :: (second ++ ']' :: rest)) + larger := by
  induction before with
  | nil =>
      rw [List.nil_append, List.nil_append, weight_bracket one, weight_bracket two]
      omega
  | cons c before ih =>
      have ahead := indexAhead_append before (first ++ ']' :: rest) (second ++ ']' :: rest)
      simp only [List.cons_append, weight, ahead]
      omega

theorem keyWeight_reindexKey {key repeatable moved : String} {removed : Nat}
    (moves : reindexKey key repeatable removed = some moved) :
    moved = key ∨ keyWeight moved < keyWeight key := by
  simp only [reindexKey] at moves
  split at moves
  · cases moves
    exact Or.inl rfl
  · rename_i tail stripped
    split at moves
    · cases moves
      exact Or.inl rfl
    · rename_i digits rest split
      split at moves
      · cases moves
        exact Or.inl rfl
      · rename_i position read
        split at moves
        · cases moves
        · split at moves
          · rename_i later
            cases moves
            have small := lt_of_bracketedIndex? read
            have lower : bracketedIndex? (toString (position - 1)).toList = some (position - 1) :=
              bracketedIndex?_numeral (by omega)
            have replaced := weight_replace read lower repeatable.toList rest
            have written : key.toList = repeatable.toList ++ '[' :: (digits ++ ']' :: rest) := by
              rw [stripStart_eq_some stripped, splitAtBracket_eq_some split, List.append_assoc]
              rfl
            refine Or.inr ?_
            simp only [keyWeight, String.toList_ofList, written, List.append_assoc,
              List.cons_append, List.nil_append] at replaced ⊢
            omega
          · cases moves
            exact Or.inl rfl

end DeclarativeForm
