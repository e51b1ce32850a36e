import DeclarativeForm.Defaults
import DeclarativeForm.Engine.Fault
import DeclarativeForm.Engine.Navigator
import DeclarativeForm.Engine.Status
import DeclarativeForm.Options.Function
import DeclarativeForm.Schema.Form
import DeclarativeForm.Tree.Validation

/-!
A mounted form. The engine is a value: every operation gives the engine after it, together with its
answer. Fetches are not performed by the operations; they are queued as tickets, which the host
takes, performs and completes. Events and notices are collected in the order in which they arise.
The next unused generation is a natural number, as generations of tickets are.
-/

set_option autoImplicit false

namespace DeclarativeForm

inductive Event
  | valuesChanged (values : Json)
  | stepChanged (step : Nat)
  | optionsLoaded (target : FetchTarget)
  | submitted
  | submitFailed (message : String)
deriving Repr

structure EngineOptions where
  /-- Wins over the moment that the form names. -/
  trigger : Option Trigger
  /-- The milliseconds a fetch may take. -/
  fetchLimit : Option Nat
  /-- A field is cleared when what its options depend on has changed. -/
  resetDependents : Bool
  successMessage : String
  failureMessage : String
deriving Repr

namespace EngineOptions

def standard : EngineOptions :=
  { trigger := none
    fetchLimit := none
    resetDependents := true
    successMessage := "Form submitted successfully!"
    failureMessage := "There was an error submitting the form. Please try again." }

/-- What the status line says during a submission, unless the form says otherwise. -/
def loadingMessage : String := "Submitting..."

end EngineOptions

structure Engine where
  form : Form
  functions : FunctionTable
  validators : Validators
  options : EngineOptions
  trigger : Trigger
  store : Store
  navigator : Navigator
  status : Status
  /-- The tickets the host has not taken yet. -/
  pending : List Ticket
  /-- No ticket has been issued with this generation or a later one. -/
  next : Nat
  events : List Event
  notices : List Notice

namespace Engine

def values (engine : Engine) : Json := engine.store.values

def value? (engine : Engine) (text : String) : Option Json :=
  match FieldPath.parse text with
  | .ok path => engine.store.value? path
  | .error _ => none

def error? (engine : Engine) (key : String) : Option String := engine.store.error? key

def snapshot (engine : Engine) : Snapshot :=
  ⟨engine.store.values, engine.validators, engine.store.flows⟩

def emit (engine : Engine) (event : Event) : Engine :=
  { engine with events := engine.events ++ [event] }

def emitChange (engine : Engine) : Engine := engine.emit (.valuesChanged engine.store.values)

def note (engine : Engine) (notices : List Notice) : Engine :=
  { engine with notices := engine.notices ++ notices }

def locate (engine : Engine) (text : String) : Except FormError (FieldPath × Located) :=
  match parsePath text with
  | .error rejection => .error rejection
  | .ok path =>
    match DeclarativeForm.locate engine.form.fields path with
    | some located => .ok (path, located)
    | none => .error (.unknownField text)

end Engine

end DeclarativeForm
