import DeclarativeForm.Proofs.Fetch.Operation

/-!
Operations that do not write. Checks, moves between the steps of a wizard, requests for options and
the marks of the host leave the values and the states of the flows alone.
-/

set_option autoImplicit false

namespace DeclarativeForm

def HostOperation.Writes : HostOperation → Prop
  | .setValue _ _ => True
  | .addItem _ => True
  | .removeItem _ _ => True
  | .selectFlowStep _ _ _ => True
  | .reset => True
  | .submit _ => True
  | _ => False

namespace Engine

structure Still (before after : Engine) : Prop where
  values : after.values = before.values
  flows : after.store.flows = before.store.flows

theorem Still.refl (engine : Engine) : engine.Still engine := ⟨rfl, rfl⟩

theorem Still.trans {first second third : Engine} (one : first.Still second)
    (two : second.Still third) : first.Still third :=
  ⟨two.values.trans one.values, two.flows.trans one.flows⟩

theorem Still.flow? {before after : Engine} (still : before.Still after) (key : String) :
    after.store.flow? key = before.store.flow? key := by
  rw [Store.flow?, still.flows]
  rfl

theorem emitChange_still (engine : Engine) : engine.Still engine.emitChange := ⟨rfl, rfl⟩

theorem recordLocated_still (engine : Engine) (key : String) (located : Located) :
    engine.Still (engine.recordLocated key located) where
  values := recordErrors_keeps Store.values (fun _ _ => rfl) _ _ _
  flows := recordErrors_keeps Store.flows (fun _ _ => rfl) _ _ _

theorem validateField_still (engine : Engine) (text : String) :
    engine.Still (engine.validateField text).1 := by
  unfold validateField
  cases engine.locate text with
  | error rejection => exact .refl engine
  | ok found => exact engine.recordLocated_still _ _

theorem blur_still (engine : Engine) (text : String) : engine.Still (engine.blur text).1 := by
  unfold blur
  split
  · cases parsePath text <;> exact .refl engine
  · exact engine.validateField_still text

theorem refreshOptions_still (engine : Engine) (text : String) :
    engine.Still (engine.refreshOptions text).1 := by
  unfold refreshOptions
  cases engine.locate text with
  | error rejection => exact .refl engine
  | ok found =>
      dsimp only
      split <;> exact ⟨rfl, rfl⟩

theorem move_still (engine : Engine) (navigator : Navigator) (transition : Transition) :
    engine.Still (engine.move navigator transition) := by
  cases transition <;> exact ⟨rfl, rfl⟩

theorem nextStep_still (engine : Engine) : engine.Still engine.nextStep.1 := by
  unfold nextStep
  split
  · exact .refl engine
  · have validated : engine.Still engine.validateStep.1 := ⟨rfl, rfl⟩
    dsimp only
    split
    · exact validated
    · exact validated.trans (move_still _ _ _)

theorem perform_still (engine : Engine) {operation : HostOperation} (looks : ¬operation.Writes) :
    engine.Still (engine.perform operation).1 := by
  cases operation with
  | setValue text value => exact absurd trivial looks
  | blur text => exact engine.blur_still text
  | validateField text => exact engine.validateField_still text
  | validateAll => exact ⟨rfl, rfl⟩
  | validateStep => exact ⟨rfl, rfl⟩
  | addItem text => exact absurd trivial looks
  | removeItem text index => exact absurd trivial looks
  | selectFlowStep text id value => exact absurd trivial looks
  | refreshOptions text => exact engine.refreshOptions_still text
  | nextStep => exact engine.nextStep_still
  | previousStep => exact engine.move_still _ _
  | toggleDropdown key => exact ⟨rfl, rfl⟩
  | closeDropdowns => exact ⟨rfl, rfl⟩
  | togglePassword key => exact ⟨rfl, rfl⟩
  | reset => exact absurd trivial looks
  | submit handler => exact absurd trivial looks

theorem completeFetch_values (engine : Engine) (ticket : Ticket) (result : FetchResult) :
    (engine.completeFetch ticket result).1.values = engine.values := by
  unfold completeFetch
  cases taken : engine.store.complete ticket result with
  | none => rfl
  | some store =>
      rcases Store.complete_put taken with ⟨key, _, slot, _, rfl⟩ | ⟨key, _, state, _, rfl⟩
      · rfl
      · rfl

end Engine

end DeclarativeForm
