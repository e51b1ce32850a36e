import DeclarativeForm.Proofs.Fetch.Session

/-!
Listeners. A listener keeps a copy of the values and replaces it by those it is told. An operation
that writes values tells of them once it has brought the fields up to date, and writes none
afterwards; every other operation leaves the values alone. So the copy of a listener that is there
from the start is what the form holds, after every step of a host.
-/

set_option autoImplicit false

namespace DeclarativeForm

namespace Event

def applyTo (copy : Json) : Event → Json
  | .valuesChanged values => values
  | .stepChanged _ => copy
  | .optionsLoaded _ => copy
  | .submitted => copy
  | .submitFailed _ => copy

def follow (copy : Json) (events : List Event) : Json := events.foldl applyTo copy

theorem follow_append (copy : Json) (events later : List Event) :
    follow copy (events ++ later) = follow (follow copy events) later :=
  List.foldl_append

end Event

namespace Engine

open Event

/-- A listener whose copy was right before has heard of all that its copy takes to be right now. -/
def Tells (before after : Engine) : Prop :=
  ∃ told, after.events = before.events ++ told ∧ follow before.values told = after.values

namespace Tells

variable {first second third : Engine}

theorem quiet (events : second.events = first.events) (values : second.values = first.values) :
    first.Tells second :=
  ⟨[], by rw [events, List.append_nil], values.symm⟩

theorem refl (engine : Engine) : engine.Tells engine := .quiet rfl rfl

theorem trans (one : first.Tells second) (two : second.Tells third) : first.Tells third := by
  obtain ⟨early, events, copy⟩ := one
  obtain ⟨late, laterEvents, laterCopy⟩ := two
  refine ⟨early ++ late, ?_, ?_⟩
  · rw [laterEvents, events, List.append_assoc]
  · rw [follow_append, copy, laterCopy]

theorem emitChange (silent : second.events = first.events) : first.Tells second.emitChange := by
  refine ⟨[.valuesChanged second.values], ?_, rfl⟩
  rw [← silent]
  rfl

end Tells

/-- Events that do not tell of values come where no values are written. -/
theorem emit_tells (engine : Engine) {event : Event} (other : ∀ copy, event.applyTo copy = copy) :
    engine.Tells (engine.emit event) :=
  ⟨[event], rfl, other engine.values⟩

/-! ### Bringing fields up to date -/

theorem syncFlow_events (engine : Engine) (place : FlowPlace) :
    (engine.syncFlow place).events = engine.events := by
  unfold syncFlow
  dsimp only
  split <;> rfl

theorem syncPass_events (touched : Option String) (engine : Engine)
    (bindings : List OptionBinding) :
    (syncPass touched engine bindings).1.events = engine.events :=
  foldl_requestBinding_keep (fun after => after.events = engine.events) (fun _ _ _ same => same) rfl

/-- Fields are brought up to date without a word, also where some are cleared. -/
theorem refreshDerived_events (engine : Engine) (touched : Option String) :
    (engine.refreshDerived touched).events = engine.events := by
  have started : engine.syncFlows.events = engine.events :=
    syncFlows_keep (fun after => after.events = engine.events)
      (fun other place _ same => (other.syncFlow_events place).trans same) rfl
  exact syncPasses_keep (fun after => after.events = engine.events) (fun _ _ same => same)
    (fun other same => (syncPass_events touched other _).trans same) _ 0 started

theorem refreshed_tells {engine written : Engine} (silent : written.events = engine.events)
    (touched : Option String) : engine.Tells (written.refreshDerived touched).emitChange :=
  .emitChange ((written.refreshDerived_events touched).trans silent)

/-! ### Operations -/

theorem recordLocated_tells (engine : Engine) (key : String) (located : Located) :
    engine.Tells (engine.recordLocated key located) :=
  .quiet rfl (recordErrors_keeps Store.values (fun _ _ => rfl) _ _ _)

theorem setValue_tells (engine : Engine) (text : String) (value : Json) :
    engine.Tells (engine.setValue text value).1 := by
  have reached := engine.setValue_write text value
  generalize engine.setValue text value = result at reached ⊢
  cases reached with
  | refused rejection => exact .refl engine
  | @written path located found complete =>
      have silent : (engine.withValue path located value).events = engine.events := by
        unfold withValue
        dsimp only
        split <;> rfl
      exact refreshed_tells silent _

theorem validateField_tells (engine : Engine) (text : String) :
    engine.Tells (engine.validateField text).1 := by
  unfold validateField
  cases engine.locate text with
  | error rejection => exact .refl engine
  | ok found => exact recordLocated_tells engine _ _

theorem blur_tells (engine : Engine) (text : String) : engine.Tells (engine.blur text).1 := by
  unfold blur
  split
  · cases parsePath text <;> exact .refl engine
  · exact validateField_tells engine text

theorem addItem_tells (engine : Engine) (text : String) : engine.Tells (engine.addItem text).1 := by
  have reached := engine.addItem_addition text
  generalize engine.addItem text = result at reached ⊢
  cases reached with
  | refused rejection => exact .refl engine
  | most found message rejection => exact .quiet rfl rfl
  | @added path head template place found =>
      have silent : (engine.withNewItem path template).events = engine.events := rfl
      exact refreshed_tells silent _

theorem removeItem_tells (engine : Engine) (text : String) (index : Nat) :
    engine.Tells (engine.removeItem text index).1 := by
  have reached := engine.removeItem_removal text index
  generalize engine.removeItem text index = result at reached ⊢
  cases reached with
  | refused rejection => exact .refl engine
  | least found message rejection => exact .quiet rfl rfl
  | @removed path head template place found inRange =>
      have silent : (engine.withoutItem path index).events = engine.events := rfl
      exact refreshed_tells silent _

theorem selectFlowStep_tells (engine : Engine) (text id value : String) :
    engine.Tells (engine.selectFlowStep text id value).1 := by
  have reached := engine.selectFlowStep_choice text id value
  generalize engine.selectFlowStep text id value = result at reached ⊢
  cases reached with
  | refused rejection => exact .refl engine
  | @ignored path flow place started state found starts present selection unapplied =>
      subst starts
      exact .quiet (engine.syncFlow_events _) (engine.syncFlow_keeps _).1
  | @applied path flow place started state index progress change found starts present
      isStep enabled chosen tickets output =>
      subst starts
      have silent : ((engine.syncFlow ⟨path, flow, place⟩).withChoice path flow id value progress
          change).events = engine.events := engine.syncFlow_events _
      exact refreshed_tells silent _

theorem refreshOptions_tells (engine : Engine) (text : String) :
    engine.Tells (engine.refreshOptions text).1 := by
  unfold refreshOptions
  cases engine.locate text with
  | error rejection => exact .refl engine
  | ok found =>
      dsimp only
      split <;> exact .quiet rfl rfl

theorem move_tells (engine : Engine) (navigator : Navigator) (transition : Transition) :
    engine.Tells (engine.move navigator transition) := by
  cases transition with
  | moved origin target =>
      have stayed : engine.Tells { engine with navigator, store := engine.store.closeDropdowns } :=
        .quiet rfl rfl
      exact stayed.trans (emit_tells _ fun _ => rfl)
  | blocked errors => exact .quiet rfl rfl
  | boundary => exact .quiet rfl rfl

theorem nextStep_tells (engine : Engine) : engine.Tells engine.nextStep.1 := by
  have validated : engine.Tells engine.validateStep.1 := .quiet rfl rfl
  unfold nextStep
  split
  · exact .refl engine
  · dsimp only
    split
    · exact validated
    · exact validated.trans (move_tells _ _ _)

theorem reset_tells (engine : Engine) : engine.Tells engine.reset := by
  have silent : engine.emptied.events = engine.events := rfl
  rw [reset_eq]
  exact refreshed_tells silent _

private theorem answered_tells (engine : Engine) (status : Status) {event : Event}
    (other : ∀ copy, event.applyTo copy = copy) :
    engine.Tells ({ engine with status }.emit event) := by
  have silent : engine.Tells { engine with status } := .quiet rfl rfl
  exact silent.trans (emit_tells _ other)

/-- What is told of the answer to a submission comes after what is told of the reset. -/
theorem conclude_tells (engine : Engine) (answer : Except String Unit) :
    engine.Tells (engine.conclude answer).1 := by
  cases answer with
  | error cause =>
      let message := engine.submitMessages.failure.getD engine.options.failureMessage
      have noted : engine.Tells (engine.note [.submissionFailed cause]) := .quiet rfl rfl
      exact noted.trans (answered_tells _ (.failed message) fun _ => rfl)
  | ok _ =>
      let message := engine.submitMessages.success.getD engine.options.successMessage
      exact (reset_tells engine).trans
        (answered_tells engine.reset (.submitted message) fun _ => rfl)

theorem submit_tells (engine : Engine) (handler : Json → Except String Unit) :
    engine.Tells (engine.submit handler).engine := by
  unfold submit
  dsimp only
  split
  · exact .quiet rfl rfl
  · let answered : Engine :=
      { engine.validateAll.startSubmitting with
        store := { engine.validateAll.startSubmitting.store with submitting := false } }
    have asked : engine.Tells answered := .quiet rfl rfl
    exact asked.trans (answered.conclude_tells _)

theorem perform_tells (engine : Engine) (operation : HostOperation) :
    engine.Tells (engine.perform operation).1 := by
  cases operation with
  | setValue text value => exact setValue_tells engine text value
  | blur text => exact blur_tells engine text
  | validateField text => exact validateField_tells engine text
  | validateAll => exact .quiet rfl rfl
  | validateStep => exact .quiet rfl rfl
  | addItem text => exact addItem_tells engine text
  | removeItem text index => exact removeItem_tells engine text index
  | selectFlowStep text id value => exact selectFlowStep_tells engine text id value
  | refreshOptions text => exact refreshOptions_tells engine text
  | nextStep => exact nextStep_tells engine
  | previousStep => exact move_tells engine _ _
  | toggleDropdown key => exact .quiet rfl rfl
  | closeDropdowns => exact .quiet rfl rfl
  | togglePassword key => exact .quiet rfl rfl
  | reset => exact reset_tells engine
  | submit handler => exact submit_tells engine handler

theorem completeFetch_tells (engine : Engine) (ticket : Ticket) (result : FetchResult) :
    engine.Tells (engine.completeFetch ticket result).1 := by
  unfold completeFetch
  cases taken : engine.store.complete ticket result with
  | none => exact .refl engine
  | some store =>
      have values : store.values = engine.store.values := by
        rcases Store.complete_put taken with ⟨key, _, slot, _, rfl⟩ | ⟨key, _, state, _, rfl⟩
        · rfl
        · rfl
      have answered : engine.Tells
          ({ engine with store }.note (ticket.completionNotices result)) := .quiet rfl values
      exact answered.trans (emit_tells _ fun _ => rfl)

end Engine

namespace Session

theorem step_tells (session : Session) (step : HostStep) :
    session.engine.Tells (session.step step).engine := by
  cases step with
  | operate operation => exact session.engine.perform_tells operation
  | take => exact .quiet rfl rfl
  | complete ticket result => exact session.engine.completeFetch_tells ticket result

theorem run_tells (session : Session) (steps : List HostStep) :
    session.engine.Tells (session.run steps).engine := by
  induction steps generalizing session with
  | nil => exact .refl _
  | cons step rest ih => exact (session.step_tells step).trans (ih _)

/-- Nothing is told when a form is mounted. A listener that starts then from the values of the form,
and takes over those it is told, has the values of the form after every step of every run. -/
theorem follow_events_eq_values (mounting : Engine.Mounting) (steps : List HostStep) :
    (mount mounting).engine.events = [] ∧
      Event.follow (mount mounting).engine.values ((mount mounting).run steps).engine.events =
        ((mount mounting).run steps).engine.values := by
  have silent : (mount mounting).engine.events = [] :=
    (Engine.unfolded mounting).refreshDerived_events none
  obtain ⟨told, events, copy⟩ := (mount mounting).run_tells steps
  rw [silent, List.nil_append] at events
  rw [events]
  exact ⟨silent, copy⟩

end Session

end DeclarativeForm
