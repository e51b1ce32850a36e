import DeclarativeForm.Proofs.Sync.Notices
import DeclarativeForm.Proofs.Sync.Progress
import DeclarativeForm.Proofs.Sync.Rest
import Mathlib.Data.List.Perm.Subperm

/-!
How many passes there are. Passes follow each other as long as they clear something, and they are
given up when one clears something and comes after at least as many passes as there are bindings by
then. Every pass that clears something clears a field that was filled, and a field that is cleared
stays so; thus the passes before have cleared as many different fields as they are, and the passes
are given up only if one of these fields is hidden.
-/

set_option autoImplicit false

namespace DeclarativeForm

namespace Engine

/-- So many passes follow each other, and each of them clears a field. -/
inductive ClearingPasses (touched : Option String) : Nat → Engine → Engine → Prop
  | none (engine : Engine) : ClearingPasses touched 0 engine engine
  | next {count : Nat} {engine last : Engine} (clears : (engine.nextPass touched).2 = true)
      (later : ClearingPasses touched count (engine.nextPass touched).1 last) :
      ClearingPasses touched (count + 1) engine last

/-- After some passes that clear fields there is one more, and there are no more bindings than there
were passes before it. -/
def GivesUp (engine : Engine) (touched : Option String) : Prop :=
  ∃ count last, ClearingPasses touched count engine last ∧ (last.nextPass touched).2 = true ∧
    last.bindings.length ≤ count

variable {touched : Option String} {engine last : Engine} {count fuel passes : Nat}

/-! ### One pass -/

theorem nextPass_passed (engine : Engine) (touched : Option String)
    (named : WellNamed engine.form.fields) :
    ∃ cleared, engine.Passed cleared (engine.nextPass touched).1 (engine.nextPass touched).2 := by
  obtain ⟨cleared, passed⟩ := syncPass_passed touched
    (engine.note (optionBindingNotices engine.form.fields engine.values)) named
  exact ⟨cleared, passed.form, passed.options, passed.asked, passed.sound, passed.subset,
    passed.chosen, passed.within, passed.idle, passed.progress, passed.done⟩

theorem nextPass_notices (engine : Engine) (touched : Option String) :
    (engine.nextPass touched).1.notices =
      engine.notices ++ optionBindingNotices engine.form.fields engine.values :=
  foldl_requestBinding_keep (fun after => after.notices = _) (fun _ _ _ same => same) rfl

theorem gaveUp_append {before after : Engine} {added : List Notice}
    (notices : after.notices = before.notices ++ added) (quiet : NoneUnsettled added) :
    after.gaveUp = before.gaveUp := by
  rw [gaveUp, notices, List.any_append, quiet, Bool.or_false]
  rfl

theorem nextPass_gaveUp (engine : Engine) (touched : Option String) :
    (engine.nextPass touched).1.gaveUp = engine.gaveUp :=
  gaveUp_append (engine.nextPass_notices touched) (optionBindingNotices_noneUnsettled _ _)

/-! ### Passes that follow each other -/

namespace ClearingPasses

theorem form (chain : ClearingPasses touched count engine last)
    (named : WellNamed engine.form.fields) : last.form = engine.form := by
  induction chain with
  | none engine => rfl
  | next _ _ ih =>
      obtain ⟨_, passed⟩ := nextPass_passed _ touched named
      exact (ih (passed.form ▸ named)).trans passed.form

theorem gaveUp (chain : ClearingPasses touched count engine last) :
    last.gaveUp = engine.gaveUp := by
  induction chain with
  | none engine => rfl
  | next _ _ ih => exact ih.trans (nextPass_gaveUp _ _)

/-- When nothing hides the fields that are fed, there are as many bindings as before, and each pass
leaves fewer of them to be cleared. -/
theorem filled (chain : ClearingPasses touched count engine last)
    (named : WellNamed engine.form.fields) (shown : AlwaysShown engine.form.fields) :
    last.bindings.length = engine.bindings.length ∧ count + last.filled ≤ engine.filled := by
  induction chain with
  | none engine => exact ⟨rfl, Nat.le_of_eq (Nat.zero_add _)⟩
  | next clears _ ih =>
      obtain ⟨_, passed⟩ := nextPass_passed _ touched named
      obtain ⟨length, fewer⟩ := ih (passed.form ▸ named) (passed.form ▸ shown)
      have progress := passed.filled_lt named shown clears
      exact ⟨length.trans (passed.length_bindings shown), by omega⟩

end ClearingPasses

/-- With enough fuel the passes end with one that clears nothing, or they are given up. -/
theorem syncPasses_ends (named : WellNamed engine.form.fields) (few : passes ≤ engine.size)
    (enough : engine.size < fuel + passes) :
    ∃ count last, ClearingPasses touched count engine last ∧
      ((last.nextPass touched).2 = false ∧
          syncPasses touched fuel passes engine = (last.nextPass touched).1 ∨
        (last.nextPass touched).2 = true ∧ last.bindings.length ≤ passes + count ∧
          syncPasses touched fuel passes engine =
            (last.nextPass touched).1.note [.dependenciesUnsettled (passes + count + 1)]) := by
  induction fuel generalizing passes engine with
  | zero => omega
  | succ fuel ih =>
      rw [syncPasses_next]
      cases clears : (engine.nextPass touched).2 with
      | false => exact ⟨0, engine, .none engine, Or.inl ⟨clears, rfl⟩⟩
      | true =>
          rw [if_neg (Bool.noConfusion ·)]
          by_cases given : engine.bindings.length ≤ passes
          · rw [if_pos given]
            exact ⟨0, engine, .none engine, Or.inr ⟨clears, given, rfl⟩⟩
          · rw [if_neg given]
            obtain ⟨_, passed⟩ := engine.nextPass_passed touched named
            have size := passed.size
            have bound := engine.length_bindings_le
            have left : (engine.nextPass touched).1.size < fuel + (passes + 1) := by omega
            obtain ⟨count, last, later, outcome⟩ := ih (passed.form ▸ named) (by omega) left
            refine ⟨count + 1, last, .next clears later, ?_⟩
            rw [show passes + (count + 1) = passes + 1 + count by omega]
            exact outcome

/-- A pass that clears something too late is the end of the passes, if they come so far. -/
theorem ClearingPasses.syncPasses_gaveUp (chain : ClearingPasses touched count engine last)
    (clears : (last.nextPass touched).2 = true) (late : last.bindings.length ≤ passes + count)
    (named : WellNamed engine.form.fields) (few : passes ≤ engine.size)
    (enough : engine.size < fuel + passes) :
    (syncPasses touched fuel passes engine).gaveUp = true := by
  induction chain generalizing fuel passes with
  | none engine =>
      cases fuel with
      | zero => omega
      | succ fuel =>
          have given : engine.bindings.length ≤ passes := late
          rw [syncPasses_next, clears, if_neg (Bool.noConfusion ·), if_pos given]
          exact gaveUp_note _ _
  | @next count engine last goesOn _ ih =>
      cases fuel with
      | zero => omega
      | succ fuel =>
          rw [syncPasses_next, goesOn, if_neg (Bool.noConfusion ·)]
          split
          · exact gaveUp_note _ _
          · obtain ⟨_, passed⟩ := engine.nextPass_passed touched named
            have size := passed.size
            have bound := engine.length_bindings_le
            exact ih clears (by omega) (passed.form ▸ named) (by omega) (by omega)

theorem syncOptions_ends (touched : Option String) (named : WellNamed engine.form.fields) :
    ∃ count last, ClearingPasses touched count engine last ∧
      ((last.nextPass touched).2 = false ∧
          engine.syncOptions touched = (last.nextPass touched).1 ∨
        (last.nextPass touched).2 = true ∧ last.bindings.length ≤ count ∧
          engine.syncOptions touched =
            (last.nextPass touched).1.note [.dependenciesUnsettled (count + 1)]) := by
  have ends := @syncPasses_ends touched engine engine.passBound 0 named (Nat.zero_le _)
    (size_lt_passBound _)
  simp only [Nat.zero_add] at ends
  exact ends

theorem not_givesUp (touched : Option String) (named : WellNamed engine.form.fields)
    (shown : AlwaysShown engine.form.fields) : ¬engine.GivesUp touched := by
  rintro ⟨count, last, chain, clears, late⟩
  obtain ⟨length, fewer⟩ := chain.filled named shown
  have form := chain.form named
  obtain ⟨_, passed⟩ := last.nextPass_passed touched (form ▸ named)
  have progress := passed.filled_lt (form ▸ named) (form ▸ shown) clears
  have atMost : engine.filled ≤ engine.bindings.length := List.countP_le_length
  omega

/-- When nothing hides the fields that are fed, the passes end with one that clears nothing, and the
others are at most as many as the bindings. -/
theorem syncOptions_ends_shown (touched : Option String) (named : WellNamed engine.form.fields)
    (shown : AlwaysShown engine.form.fields) :
    ∃ count last, ClearingPasses touched count engine last ∧ count ≤ engine.bindings.length ∧
      last.bindings.length = engine.bindings.length ∧ (last.nextPass touched).2 = false ∧
      engine.syncOptions touched = (last.nextPass touched).1 := by
  obtain ⟨count, last, chain, outcome⟩ := syncOptions_ends touched named
  rcases outcome with ⟨idle, same⟩ | ⟨clears, late, _⟩
  · obtain ⟨length, fewer⟩ := chain.filled named shown
    have atMost : engine.filled ≤ engine.bindings.length := List.countP_le_length
    exact ⟨count, last, chain, by omega, length, idle, same⟩
  · exact absurd ⟨count, last, chain, clears, late⟩ (not_givesUp touched named shown)

theorem syncOptions_gaveUp_iff (touched : Option String) (named : WellNamed engine.form.fields) :
    (engine.syncOptions touched).gaveUp = true ↔
      engine.gaveUp = true ∨ engine.GivesUp touched := by
  constructor
  · intro given
    obtain ⟨count, last, chain, ⟨_, same⟩ | ⟨clears, late, _⟩⟩ := syncOptions_ends touched named
    · rw [same, nextPass_gaveUp, chain.gaveUp] at given
      exact Or.inl given
    · exact Or.inr ⟨count, last, chain, clears, late⟩
  · rintro (earlier | ⟨count, last, chain, clears, late⟩)
    · exact gaveUp_of_prefix (syncPasses_works touched _ 0 engine).notices earlier
    · exact chain.syncPasses_gaveUp clears (by omega) named (Nat.zero_le _) (size_lt_passBound _)

theorem syncOptions_settled (touched : Option String) (named : WellNamed engine.form.fields)
    (steady : ¬engine.GivesUp touched) : (engine.syncOptions touched).Settled := by
  obtain ⟨count, last, chain, ⟨idle, same⟩ | ⟨clears, late, _⟩⟩ := syncOptions_ends touched named
  · obtain ⟨_, passed⟩ := last.nextPass_passed touched (chain.form named ▸ named)
    rw [same]
    exact passed.settled idle
  · exact absurd ⟨count, last, chain, clears, late⟩ steady

theorem refreshDerived_settled (engine : Engine) (touched : Option String)
    (named : WellNamed engine.form.fields) :
    (engine.refreshDerived touched).Settled ∨ (engine.refreshDerived touched).gaveUp = true := by
  have started : WellNamed engine.syncFlows.form.fields := (syncFlows_works engine).form ▸ named
  by_cases givesUp : engine.syncFlows.GivesUp touched
  · exact Or.inr ((syncOptions_gaveUp_iff touched started).mpr (Or.inr givesUp))
  · exact Or.inl (syncOptions_settled touched started givesUp)

theorem refreshDerived_settles (engine : Engine) (touched : Option String)
    (named : WellNamed engine.form.fields) (shown : AlwaysShown engine.form.fields) :
    (engine.refreshDerived touched).Settled := by
  rw [← (syncFlows_works engine).form] at named shown
  exact syncOptions_settled touched named (not_givesUp touched named shown)

/-! ### What was cleared -/

/-- The field of a binding was visible and filled before one of the passes, and it is cleared by
now. -/
structure ClearedSince (touched : Option String) (engine last : Engine) (binding : OptionBinding) :
    Prop where
  visible : ∃ earlier middle later, ClearingPasses touched earlier engine middle ∧
    ClearingPasses touched later middle last ∧ binding ∈ middle.bindings ∧
    binding.isCleared middle.values = false
  cleared : binding.isCleared last.values = true

theorem isVisited_of_mem {binding : OptionBinding} (member : binding ∈ engine.bindings) :
    IsVisited engine.form.fields engine.values binding := by
  obtain ⟨place, isAt⟩ := isAt_of_mem member
  exact ⟨place, isAt.visited⟩

theorem ClearingPasses.kept (chain : ClearingPasses touched count engine last)
    (named : WellNamed engine.form.fields) {binding : OptionBinding}
    (visited : IsVisited engine.form.fields engine.values binding) :
    IsVisited last.form.fields last.values binding ∧
      (binding.isCleared engine.values = true → binding.isCleared last.values = true) := by
  induction chain with
  | none engine => exact ⟨visited, id⟩
  | next _ _ ih =>
      obtain ⟨_, passed⟩ := nextPass_passed _ touched named
      have still := visited
      rw [IsVisited, ← passed.within.shape, ← passed.form] at still
      obtain ⟨there, later⟩ := ih (passed.form ▸ named) still
      exact ⟨there, fun wasCleared => later (visited.kept named passed.within wasCleared)⟩

theorem isCleared_of_path_eq {fields : List Node} {values : Json} {binding other : OptionBinding}
    (named : WellNamed fields) (visited : IsVisited fields values binding)
    (otherVisited : IsVisited fields values other) (same : binding.path = other.path)
    (data : Json) : binding.isCleared data = other.isCleared data := by
  obtain ⟨place, member⟩ := visited
  obtain ⟨otherPlace, otherMember⟩ := otherVisited
  have here := (addresses_of_mem_walk named member rfl).1.locateFrom
  have there := (addresses_of_mem_walk named otherMember rfl).1.locateFrom
  dsimp only at here there
  rw [same, there] at here
  have sameField : other.field = binding.field :=
    Node.leaf.inj (congrArg Located.node (Option.some.inj here))
  rw [OptionBinding.isCleared, OptionBinding.isCleared, same, sameField]

theorem ClearedSince.next {binding : OptionBinding} (clears : (engine.nextPass touched).2 = true)
    (since : ClearedSince touched (engine.nextPass touched).1 last binding) :
    ClearedSince touched engine last binding := by
  obtain ⟨earlier, middle, later, before, after, shown, filled⟩ := since.visible
  exact ⟨⟨earlier + 1, middle, later, .next clears before, after, shown, filled⟩, since.cleared⟩

theorem ClearedSince.wasFilled {binding : OptionBinding}
    (since : ClearedSince touched engine last binding) (named : WellNamed engine.form.fields)
    (visited : IsVisited engine.form.fields engine.values binding) :
    binding.isCleared engine.values = false := by
  obtain ⟨_, _, _, before, _, _, filled⟩ := since.visible
  refine eq_false_of_ne_true fun wasCleared => ?_
  rw [(before.kept named visited).2 wasCleared] at filled
  cases filled

theorem ClearingPasses.exists_cleared (chain : ClearingPasses touched count engine last)
    (named : WellNamed engine.form.fields) :
    ∃ cleared : List OptionBinding, cleared.length = count ∧
      (cleared.map OptionBinding.path).Nodup ∧
      ∀ binding ∈ cleared, IsVisited engine.form.fields engine.values binding ∧
        ClearedSince touched engine last binding := by
  induction chain with
  | none engine => exact ⟨[], rfl, List.nodup_nil, fun _ member => nomatch member⟩
  | @next count engine last clears later ih =>
      obtain ⟨_, passed⟩ := engine.nextPass_passed touched named
      obtain ⟨first, member, wasFilled, isCleared⟩ := passed.progress clears
      have isBinding := passed.subset first member
      have visited := isVisited_of_mem isBinding
      have visits : IsVisited (engine.nextPass touched).1.form.fields
          (engine.nextPass touched).1.values = IsVisited engine.form.fields engine.values := by
        funext binding
        rw [IsVisited, IsVisited, passed.form, passed.within.shape]
      have namedAfter : WellNamed (engine.nextPass touched).1.form.fields := passed.form ▸ named
      obtain ⟨rest, length, distinct, each⟩ := ih namedAfter
      rw [visits] at each
      refine ⟨first :: rest, congrArg (· + 1) length, List.nodup_cons.mpr ⟨?_, distinct⟩, ?_⟩
      · intro inRest
        obtain ⟨other, otherMember, same⟩ := List.mem_map.mp inRest
        obtain ⟨otherVisited, since⟩ := each other otherMember
        have filled := since.wasFilled namedAfter (visits ▸ otherVisited)
        rw [isCleared_of_path_eq named otherVisited visited same, isCleared] at filled
        cases filled
      · intro binding inList
        rcases List.mem_cons.mp inList with rfl | inRest
        · have stays := (later.kept namedAfter (visits ▸ visited)).2 isCleared
          exact ⟨visited,
            ⟨0, engine, _, .none engine, .next clears later, isBinding, wasFilled⟩, stays⟩
        · exact ⟨(each binding inRest).1, (each binding inRest).2.next clears⟩

/-- When the passes are given up, a field that one of them has cleared is not visible any more. -/
theorem GivesUp.hidden (givesUp : engine.GivesUp touched) (named : WellNamed engine.form.fields) :
    ∃ last binding, ClearedSince touched engine last binding ∧
      ∀ other ∈ last.bindings, other.path ≠ binding.path := by
  obtain ⟨count, last, chain, clears, late⟩ := givesUp
  obtain ⟨cleared, length, distinct, each⟩ := chain.exists_cleared named
  refine Classical.byContradiction fun noneHidden => ?_
  have form := chain.form named
  obtain ⟨_, passed⟩ := last.nextPass_passed touched (form ▸ named)
  obtain ⟨filled, member, isFilled, _⟩ := passed.progress clears
  have isBinding := passed.subset filled member
  have apart : filled.path ∉ cleared.map OptionBinding.path := by
    intro isThere
    obtain ⟨binding, inCleared, same⟩ := List.mem_map.mp isThere
    obtain ⟨visited, _, isCleared⟩ := each binding inCleared
    have equal := isCleared_of_path_eq (form ▸ named) (chain.kept named visited).1
      (isVisited_of_mem isBinding) same last.values
    rw [isFilled, isCleared] at equal
    cases equal
  have subset : filled.path :: cleared.map OptionBinding.path ⊆
      last.bindings.map OptionBinding.path := by
    intro path isThere
    rcases List.mem_cons.mp isThere with rfl | isThere
    · exact List.mem_map_of_mem isBinding
    · obtain ⟨binding, inCleared, rfl⟩ := List.mem_map.mp isThere
      refine Classical.byContradiction fun missing => noneHidden ⟨last, binding, ?_, ?_⟩
      · exact (each binding inCleared).2
      · exact fun other isOther same => missing (same ▸ List.mem_map_of_mem isOther)
  have fits := ((List.nodup_cons.mpr ⟨apart, distinct⟩).subperm subset).length_le
  rw [List.length_cons, List.length_map, List.length_map, length] at fits
  omega

end Engine

theorem Session.Reachable.settles {mounting : Engine.Mounting} {session : Session}
    (reachable : Reachable mounting session) (named : WellNamed mounting.form.fields)
    (shown : AlwaysShown mounting.form.fields) : session.engine.Settled := by
  refine reachable.derived named Engine.Settled ?_ fun _ _ rests settled => rests.settled settled
  intro engine touched form
  rw [← form] at named shown
  exact engine.refreshDerived_settles touched named shown

end DeclarativeForm
