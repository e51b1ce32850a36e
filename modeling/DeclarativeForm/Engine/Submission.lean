import DeclarativeForm.Engine.Edit

/-!
Submitting a form and resetting it. A form without errors is handed to the host; if the host takes
it, the form starts anew.
-/

set_option autoImplicit false

namespace DeclarativeForm

inductive SubmitOutcome
  | submitted (message : String)
  | invalid (errors : Nat)
  | failed (message : String)
deriving DecidableEq, Repr

structure Submission where
  engine : Engine
  outcome : SubmitOutcome
  sent : List Json

namespace Engine

/-- The form as it was mounted, on its first step and without errors. -/
def reset (engine : Engine) : Engine :=
  let (store, next) := engine.store.reset engine.next
  let fresh := { engine with
    store
    next
    navigator := engine.navigator.reset
    pending := []
    status := .ready }
  (fresh.refreshDerived none).emitChange

def submitMessages (engine : Engine) : SubmitMessages :=
  engine.form.onSubmit.getD ⟨none, none, none⟩

def startSubmitting (engine : Engine) : Engine :=
  { engine with
    store := { engine.store with submitting := true }
    status := .submitting (engine.submitMessages.loading.getD EngineOptions.loadingMessage) }

/-- What comes of the answer of the host: nothing, or the reason of its refusal. -/
def conclude (engine : Engine) (answer : Except String Unit) : Engine × SubmitOutcome :=
  match answer with
  | .ok () =>
    let message := engine.submitMessages.success.getD engine.options.successMessage
    ({ engine.reset with status := .submitted message }.emit .submitted, .submitted message)
  | .error cause =>
    let message := engine.submitMessages.failure.getD engine.options.failureMessage
    (({ engine with status := .failed message }.note [.submissionFailed cause]).emit
      (.submitFailed message), .failed message)

def finishSubmitting (engine : Engine) (answer : Except String Unit) : Engine × SubmitOutcome :=
  { engine with store := { engine.store with submitting := false } }.conclude answer

/-- Validates the form and hands its values to the host if they have no errors. -/
def submit (engine : Engine) (handler : Json → Except String Unit) : Submission :=
  let validated := engine.validateAll
  let errors := validated.store.errors.length
  if 0 < errors then
    { engine := { validated with status := .issues errors }
      outcome := .invalid errors
      sent := [] }
  else
    let submitting := validated.startSubmitting
    let (engine, outcome) := submitting.finishSubmitting (handler submitting.values)
    { engine, outcome, sent := [submitting.values] }

end Engine

end DeclarativeForm
