import DeclarativeForm.Proofs.Fetch.Operation

/-!
Where a form stands: the step a wizard is at, and whether the form is being submitted. Bringing
fields up to date, writing, checking and fetching leave both alone; only the moves between steps, a
reset and a submission touch them.
-/

set_option autoImplicit false

namespace DeclarativeForm

def HostOperation.Moves : HostOperation → Prop
  | .nextStep => True
  | .previousStep => True
  | .reset => True
  | .submit _ => True
  | _ => False

namespace Engine

structure Steady (before after : Engine) : Prop where
  navigator : after.navigator = before.navigator
  submitting : after.store.submitting = before.store.submitting

theorem Steady.refl (engine : Engine) : engine.Steady engine := ⟨rfl, rfl⟩

theorem Steady.trans {first second third : Engine} (one : first.Steady second)
    (two : second.Steady third) : first.Steady third :=
  ⟨two.navigator.trans one.navigator, two.submitting.trans one.submitting⟩

/-! ### Deriving -/

theorem emit_steady (engine : Engine) (event : Event) : engine.Steady (engine.emit event) :=
  ⟨rfl, rfl⟩

theorem recordLocated_steady (engine : Engine) (key : String) (located : Located) :
    engine.Steady (engine.recordLocated key located) :=
  ⟨rfl, recordErrors_keeps Store.submitting (fun _ _ => rfl) _ _ _⟩

theorem syncFlow_steady (engine : Engine) (place : FlowPlace) :
    engine.Steady (engine.syncFlow place) := by
  unfold syncFlow
  dsimp only
  split
  · exact .refl engine
  · exact ⟨rfl, rfl⟩

theorem syncPass_steady (touched : Option String) (engine : Engine)
    (bindings : List OptionBinding) : engine.Steady (syncPass touched engine bindings).1 := by
  have asked (other : Engine) (binding : OptionBinding) :
      other.Steady (other.askFor touched binding) := ⟨rfl, rfl⟩
  have requested : engine.Steady (bindings.foldl (requestBinding touched) (engine, [])).1 :=
    foldl_requestBinding_keep engine.Steady (fun _ _ _ steady => steady.trans (asked _ _))
      (.refl engine)
  unfold syncPass
  exact requested.trans ⟨rfl, foldl_applyClearing_keeps Store.submitting (fun _ _ _ => rfl) _ _⟩

theorem refreshDerived_steady (engine : Engine) (touched : Option String) :
    engine.Steady (engine.refreshDerived touched) := by
  have started : engine.Steady engine.syncFlows :=
    syncFlows_keep engine.Steady (fun _ _ _ steady => steady.trans (syncFlow_steady _ _))
      (.refl engine)
  exact syncPasses_keep engine.Steady (fun _ _ steady => steady.trans ⟨rfl, rfl⟩)
    (fun _ steady => steady.trans (syncPass_steady touched _ _)) _ 0 started

theorem refreshed_steady (engine : Engine) (touched : Option String) :
    engine.Steady (engine.refreshDerived touched).emitChange :=
  (refreshDerived_steady engine touched).trans (emit_steady _ _)

/-! ### Operations -/

theorem setValue_steady (engine : Engine) (text : String) (value : Json) :
    engine.Steady (engine.setValue text value).1 := by
  have reached := engine.setValue_write text value
  generalize engine.setValue text value = result at reached ⊢
  cases reached with
  | refused rejection => exact .refl engine
  | @written path located found complete =>
      have stored : engine.Steady { engine with store := engine.store.setValue path value } :=
        ⟨rfl, rfl⟩
      have written : engine.Steady (engine.withValue path located value) := by
        unfold withValue
        dsimp only
        split
        · exact stored.trans (recordLocated_steady _ _ _)
        · exact stored
      exact written.trans (refreshed_steady _ _)

theorem validateField_steady (engine : Engine) (text : String) :
    engine.Steady (engine.validateField text).1 := by
  unfold validateField
  cases engine.locate text with
  | error rejection => exact .refl engine
  | ok found => exact recordLocated_steady engine _ _

theorem blur_steady (engine : Engine) (text : String) : engine.Steady (engine.blur text).1 := by
  unfold blur
  split
  · cases parsePath text <;> exact .refl engine
  · exact validateField_steady engine text

theorem addItem_steady (engine : Engine) (text : String) :
    engine.Steady (engine.addItem text).1 := by
  have reached := engine.addItem_addition text
  generalize engine.addItem text = result at reached ⊢
  cases reached with
  | refused rejection => exact .refl engine
  | most found message rejection => exact ⟨rfl, rfl⟩
  | @added path head template place found =>
      have written : engine.Steady (engine.withNewItem path template) := ⟨rfl, rfl⟩
      exact written.trans (refreshed_steady _ _)

theorem removeItem_steady (engine : Engine) (text : String) (index : Nat) :
    engine.Steady (engine.removeItem text index).1 := by
  have reached := engine.removeItem_removal text index
  generalize engine.removeItem text index = result at reached ⊢
  cases reached with
  | refused rejection => exact .refl engine
  | least found message rejection => exact ⟨rfl, rfl⟩
  | @removed path head template place found inRange =>
      have written : engine.Steady (engine.withoutItem path index) := ⟨rfl, rfl⟩
      exact written.trans (refreshed_steady _ _)

theorem selectFlowStep_steady (engine : Engine) (text id value : String) :
    engine.Steady (engine.selectFlowStep text id value).1 := by
  have reached := engine.selectFlowStep_choice text id value
  generalize engine.selectFlowStep text id value = result at reached ⊢
  cases reached with
  | refused rejection => exact .refl engine
  | ignored found starts present selection unapplied =>
      subst starts
      exact (syncFlow_steady engine _).trans ⟨rfl, rfl⟩
  | @applied path flow place started state index progress change found starts present
      isStep enabled chosen tickets output =>
      subst starts
      have written := applyFlowChange_keeps Store.submitting (fun _ _ _ => rfl)
        ((engine.syncFlow ⟨path, flow, place⟩).store.putFlow path.text progress.state) path flow id
        value change
      have chosen : (engine.syncFlow ⟨path, flow, place⟩).Steady
          ((engine.syncFlow ⟨path, flow, place⟩).withChoice path flow id value progress change) :=
        ⟨rfl, written⟩
      exact ((syncFlow_steady engine _).trans chosen).trans (refreshed_steady _ _)

theorem refreshOptions_steady (engine : Engine) (text : String) :
    engine.Steady (engine.refreshOptions text).1 := by
  unfold refreshOptions
  cases engine.locate text with
  | error rejection => exact .refl engine
  | ok found =>
      dsimp only
      split <;> exact ⟨rfl, rfl⟩

theorem completeFetch_steady (engine : Engine) (ticket : Ticket) (result : FetchResult) :
    engine.Steady (engine.completeFetch ticket result).1 := by
  unfold completeFetch
  cases taken : engine.store.complete ticket result with
  | none => exact .refl engine
  | some store =>
      rcases Store.complete_put taken with ⟨key, _, slot, _, rfl⟩ | ⟨key, _, state, _, rfl⟩
      · exact ⟨rfl, rfl⟩
      · exact ⟨rfl, rfl⟩

theorem perform_steady (engine : Engine) {operation : HostOperation} (stays : ¬operation.Moves) :
    engine.Steady (engine.perform operation).1 := by
  cases operation with
  | setValue text value => exact setValue_steady engine text value
  | blur text => exact blur_steady engine text
  | validateField text => exact validateField_steady engine text
  | validateAll => exact ⟨rfl, rfl⟩
  | validateStep => exact ⟨rfl, rfl⟩
  | addItem text => exact addItem_steady engine text
  | removeItem text index => exact removeItem_steady engine text index
  | selectFlowStep text id value => exact selectFlowStep_steady engine text id value
  | refreshOptions text => exact refreshOptions_steady engine text
  | nextStep => exact absurd trivial stays
  | previousStep => exact absurd trivial stays
  | toggleDropdown key => exact ⟨rfl, rfl⟩
  | closeDropdowns => exact ⟨rfl, rfl⟩
  | togglePassword key => exact ⟨rfl, rfl⟩
  | reset => exact absurd trivial stays
  | submit handler => exact absurd trivial stays

end Engine

end DeclarativeForm
