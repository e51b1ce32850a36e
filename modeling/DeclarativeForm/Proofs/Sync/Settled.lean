import DeclarativeForm.Proofs.Sync.Clearing

/-!
Passes settle. The engine is settled when every visible field fed by a source has been asked for
with its current arguments. A pass that clears nothing leaves it settled, and the passes go on until
one does, unless they give up. The bound on their number is larger than the number of bindings,
since clearing keeps the shape of the form.
-/

set_option autoImplicit false

namespace DeclarativeForm

/-- Whether a notice says that the passes were given up. -/
def Notice.isUnsettled : Notice → Bool
  | .dependenciesUnsettled _ => true
  | _ => false

namespace Engine

def gaveUp (engine : Engine) : Bool := engine.notices.any Notice.isUnsettled

/-- Every visible field fed by a source has been asked for with its current arguments. -/
def Settled (engine : Engine) : Prop := ∀ binding ∈ engine.bindings, engine.Asked binding

def size (engine : Engine) : Nat :=
  (walk .everything engine.values .root engine.form.fields).length

theorem bindings_congr {before after : Engine} (form : after.form = before.form)
    (values : after.values = before.values) : after.bindings = before.bindings := by
  rw [bindings, bindings, form, values]

theorem gaveUp_of_prefix {before after : Engine} (earlier : before.notices <+: after.notices)
    (given : before.gaveUp = true) : after.gaveUp = true := by
  obtain ⟨notice, member, unsettled⟩ := List.any_eq_true.mp given
  exact List.any_eq_true.mpr ⟨notice, earlier.subset member, unsettled⟩

theorem gaveUp_note (engine : Engine) (passes : Nat) :
    (engine.note [.dependenciesUnsettled passes]).gaveUp = true := by
  refine List.any_eq_true.mpr ⟨.dependenciesUnsettled passes, ?_, rfl⟩
  exact List.mem_append_right _ List.mem_cons_self

theorem length_bindings_le (engine : Engine) : engine.bindings.length ≤ engine.size :=
  length_optionBindings_le engine.form.fields engine.values

namespace Passed

variable {engine after : Engine} {cleared : List OptionBinding} {changed : Bool}

theorem size (passed : engine.Passed cleared after changed) : after.size = engine.size := by
  rw [Engine.size, Engine.size, passed.form, passed.within.shape]

theorem settled (passed : engine.Passed cleared after changed) (idle : changed = false) :
    after.Settled := by
  intro binding member
  rw [bindings_congr passed.form (passed.idle idle)] at member
  exact passed.asked binding member

end Passed

/-! ### The next pass -/

/-- The next pass. Tells whether a field was cleared. -/
def nextPass (engine : Engine) (touched : Option String) : Engine × Bool :=
  syncPass touched (engine.note (optionBindingNotices engine.form.fields engine.values))
    engine.bindings

theorem syncPasses_next (touched : Option String) (fuel passes : Nat) (engine : Engine) :
    syncPasses touched (fuel + 1) passes engine =
      if (engine.nextPass touched).2 = false then (engine.nextPass touched).1
      else if engine.bindings.length ≤ passes then
        (engine.nextPass touched).1.note [.dependenciesUnsettled (passes + 1)]
      else syncPasses touched fuel (passes + 1) (engine.nextPass touched).1 := by
  have step : syncPasses touched (fuel + 1) passes engine =
      if !(engine.nextPass touched).2 then (engine.nextPass touched).1
      else if engine.bindings.length < passes + 1 then
        (engine.nextPass touched).1.note [.dependenciesUnsettled (passes + 1)]
      else syncPasses touched fuel (passes + 1) (engine.nextPass touched).1 := rfl
  rw [step]
  simp only [Bool.not_eq_true', Nat.lt_succ_iff]

/-- What is left after one more pass: it was the last one, or it told of a change. -/
theorem syncPasses_succ (touched : Option String) (fuel passes : Nat) (engine : Engine)
    (named : WellNamed engine.form.fields) :
    ∃ noted cleared after changed, noted = engine.note
        (optionBindingNotices engine.form.fields engine.values) ∧
      noted.Passed cleared after changed ∧
      (changed = false ∧ syncPasses touched (fuel + 1) passes engine = after ∨
        changed = true ∧ engine.bindings.length < passes + 1 ∧
          syncPasses touched (fuel + 1) passes engine =
            after.note [.dependenciesUnsettled (passes + 1)] ∨
        changed = true ∧ passes + 1 ≤ engine.bindings.length ∧
          syncPasses touched (fuel + 1) passes engine =
            syncPasses touched fuel (passes + 1) after) := by
  obtain ⟨cleared, passed⟩ := syncPass_passed touched
    (engine.note (optionBindingNotices engine.form.fields engine.values)) named
  refine ⟨_, cleared, (engine.nextPass touched).1, (engine.nextPass touched).2, rfl, passed, ?_⟩
  rw [syncPasses_next]
  cases told : (engine.nextPass touched).2 with
  | false => exact Or.inl ⟨rfl, rfl⟩
  | true =>
      by_cases given : engine.bindings.length ≤ passes
      · exact Or.inr (Or.inl ⟨rfl, Nat.lt_succ_of_le given, if_pos given⟩)
      · exact Or.inr (Or.inr ⟨rfl, Nat.lt_of_not_le given, if_neg given⟩)

theorem size_lt_passBound (engine : Engine) : engine.size < engine.passBound :=
  Nat.lt_add_of_pos_right (Nat.pow_pos Nat.two_pos)

end Engine

end DeclarativeForm
