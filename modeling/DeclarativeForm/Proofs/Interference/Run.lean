import DeclarativeForm.Proofs.Fetch.Accounting
import DeclarativeForm.Proofs.Interference.Operation

/-!
What is fetched never shows in the form itself. Two hosts that perform the same operations see the
same, whenever they take their tickets, whichever of them they complete, in whatever order and with
whatever results. Each session stays alike to one whose host never takes a ticket.
-/

set_option autoImplicit false

namespace DeclarativeForm

/-- What a host can see of a form besides the options on offer. -/
structure Appearance where
  values : Json
  errors : ErrorMap
  /-- The values of the steps of every flow. -/
  flowValues : Keyed (Keyed String)
  step : Nat
  status : Status
  dirty : Bool
  dropdown : Option String
  shownPasswords : Keyed Bool
  submitting : Bool

def FlowState.values (state : FlowState) : Keyed String :=
  state.steps.map fun entry => (entry.1, entry.2.value)

def Engine.appearance (engine : Engine) : Appearance where
  values := engine.values
  errors := engine.store.errors
  flowValues := engine.store.flows.map fun entry => (entry.1, entry.2.values)
  step := engine.navigator.current
  status := engine.status
  dirty := engine.store.isDirty
  dropdown := engine.store.openDropdown
  shownPasswords := engine.store.shownPasswords
  submitting := engine.store.submitting

theorem FlowState.Alike.values {left right : FlowState} (alike : left.Alike right) :
    left.values = right.values :=
  Keyed.Related.map_eq alike fun _ _ same => same

namespace Engine

variable {left right : Engine}

theorem Alike.appearance (alike : left.Alike right) : left.appearance = right.appearance := by
  cases alike with
  | intro store pending next events notices stores =>
      cases stores with
      | intro slots flows slotsAlike flowsAlike =>
          have same := flowsAlike.map_eq fun _ _ states => states.values
          simp only [Engine.appearance, same]
          rfl

private theorem complete_alike {left right : Store} (alike : left.Alike right) {ticket : Ticket}
    {result : FetchResult} {after : Store} (taken : left.complete ticket result = some after)
    (requested : ∀ slot, left.slotAt? ticket.target = some slot →
      ticket.generation = slot.generation → slot.requestedFor = some ticket.args) :
    after.Alike right := by
  unfold Store.complete at taken
  cases alike with
  | intro slots flows slotsAlike flowsAlike =>
      cases isTarget : ticket.target with
      | field path =>
          simp only [isTarget, Store.completeSlot, Option.bind_eq_bind, Option.bind_eq_some_iff,
            Option.some.injEq] at taken
          obtain ⟨slot, isThere, completed, answered, rfl⟩ := taken
          obtain ⟨current, _, sameArgs, _, _⟩ := OptionsSlot.complete_eq_some answered
          have isFor := requested slot (by rw [isTarget]; exact isThere) current
          refine .intro slots flows (slotsAlike.put_left isThere ?_) flowsAlike
          intro other same
          exact ⟨sameArgs ▸ same.requested,
            OptionsSlot.sound_of_requestedFor (sameArgs.trans isFor), same.right⟩
      | flowStep path step =>
          simp only [isTarget, FlowState.complete, Option.bind_eq_bind, Option.bind_eq_some_iff,
            Option.some.injEq] at taken
          obtain ⟨state, present, _, ⟨current, isThere, completed, _, rfl⟩, rfl⟩ := taken
          refine .intro slots flows slotsAlike (flowsAlike.put_left present ?_)
          intro other same
          exact Keyed.Related.put_left same isThere fun _ equal => equal

theorem completeFetch_alike (alike : left.Alike right) (ticket : Ticket) (result : FetchResult)
    (requested : ∀ slot, left.store.slotAt? ticket.target = some slot →
      ticket.generation = slot.generation → slot.requestedFor = some ticket.args) :
    (left.completeFetch ticket result).1.Alike right := by
  unfold completeFetch
  cases taken : left.store.complete ticket result with
  | none => exact alike
  | some store =>
      have stores := complete_alike alike.store taken requested
      cases alike with
      | intro store pending next events notices => exact .intro _ pending next events notices stores

theorem takePending_alike (alike : left.Alike right) : left.takePending.1.Alike right := by
  cases alike with
  | intro store pending next events notices stores =>
      exact .intro store pending next events notices stores

theorem unfolded_alike (mounting : Mounting) : (unfolded mounting).Alike (unfolded mounting) :=
  .intro (unfolded mounting).store [] 1 [] [] (.intro [] [] .nil .nil)

end Engine

/-! ### Runs -/

def HostStep.operation? : HostStep → Option HostOperation
  | .operate operation => some operation
  | .take => none
  | .complete _ _ => none

namespace Session

/-- What a host sees after each of its operations: the answer, without tickets, and the form. -/
def observe (session : Session) : List HostStep → List (HostAnswer × Appearance)
  | [] => []
  | .operate operation :: rest =>
    ((session.engine.perform operation).2.blind, (session.operate operation).engine.appearance)
      :: (session.operate operation).observe rest
  | .take :: rest => session.take.observe rest
  | .complete ticket result :: rest => (session.complete ticket result).observe rest

end Session

def Engine.observe (engine : Engine) : List HostOperation → List (HostAnswer × Appearance)
  | [] => []
  | operation :: rest =>
    ((engine.perform operation).2.blind, (engine.perform operation).1.appearance)
      :: (engine.perform operation).1.observe rest

namespace Session

/-- A host sees what one sees that never takes a ticket. -/
theorem Reachable.observe_eq {mounting : Engine.Mounting} {session : Session} {engine : Engine}
    {steps : List HostStep} (reachable : Reachable mounting session)
    (alike : session.engine.Alike engine) (honest : session.Honest steps) :
    session.observe steps = engine.observe (steps.filterMap HostStep.operation?) := by
  induction steps generalizing session engine with
  | nil => rfl
  | cons step rest ih =>
      have next : Reachable mounting (session.step step) := .stepped step reachable honest.1
      cases step with
      | operate operation =>
          obtain ⟨engines, answers⟩ := Engine.perform_alike alike operation
          have later := ih next engines honest.2
          simp only [observe, List.filterMap_cons, HostStep.operation?, Engine.observe, answers]
          rw [show (session.operate operation).engine.appearance = _ from engines.appearance]
          exact congrArg _ later
      | take => exact ih next (Engine.takePending_alike alike) honest.2
      | complete ticket result =>
          have requested : ∀ slot, session.engine.store.slotAt? ticket.target = some slot →
              ticket.generation = slot.generation → slot.requestedFor = some ticket.args := by
            intro slot isThere same
            exact (reachable.accounted.slots _ slot isThere).requested ticket honest.1 same
          exact ih next (Engine.completeFetch_alike alike ticket result requested) honest.2

/-- Two hosts that perform the same operations on a form see the same. -/
theorem observe_eq_of_operations_eq (mounting : Engine.Mounting) {left right : List HostStep}
    (leftHonest : (mount mounting).Honest left) (rightHonest : (mount mounting).Honest right)
    (same : left.filterMap HostStep.operation? = right.filterMap HostStep.operation?) :
    (mount mounting).observe left = (mount mounting).observe right := by
  have alike : (mount mounting).engine.Alike (Engine.mount mounting) :=
    Engine.refreshDerived_alike (Engine.unfolded_alike mounting) none
  calc
    (mount mounting).observe left =
        (Engine.mount mounting).observe (left.filterMap HostStep.operation?) :=
      Reachable.observe_eq .mounted alike leftHonest
    _ = (Engine.mount mounting).observe (right.filterMap HostStep.operation?) := by rw [same]
    _ = (mount mounting).observe right :=
      (Reachable.observe_eq .mounted alike rightHonest).symm

/-- One host completes the first ticket before it writes, the other never takes it. -/
theorem countryAndCity_observe_eq :
    (mount countryAndCity).observe
        [.take, .complete ⟨.field "country", 1, "options", []⟩ (.error "offline"),
          .operate (.setValue "country" (.string "Italy")), .take] =
      (mount countryAndCity).observe [.operate (.setValue "country" (.string "Italy"))] :=
  observe_eq_of_operations_eq countryAndCity (by decide +kernel) (by decide +kernel) rfl

end Session

end DeclarativeForm
