import DeclarativeForm.Engine.State
import DeclarativeForm.Tree.Binding

/-!
What follows from the values: every flow that is there has a state, and every visible field fed by
a source has been asked for with its current arguments. When the arguments of a field change, its
value is cleared, which may change the arguments of others; passes are made until nothing is left
to clear.
-/

set_option autoImplicit false

namespace DeclarativeForm.Engine

/-- A dependency is touched by a write to its path, also when it is named from inside an item. -/
def touches (written dependency : String) : Bool :=
  written == dependency
    || (stripStart ('.' :: dependency.toList).reverse written.toList.reverse).isSome

def takeProgress (engine : Engine) (key : String) (progress : FlowProgress) : Engine :=
  { engine with
    store := engine.store.putFlow key progress.state
    pending := engine.pending ++ progress.tickets
    next := progress.next }

def syncFlow (engine : Engine) (place : FlowPlace) : Engine :=
  let key := place.path.text
  match engine.store.flow? key with
  | some _ => engine
  | none =>
    engine.takeProgress key
      (place.flow.start key (place.context.scope engine.values) engine.next)

def syncFlows (engine : Engine) : Engine :=
  (flowPlaces engine.form.fields engine.values).foldl syncFlow engine

/-- A field to be cleared, by the text of its path, and the value it goes back to. -/
abbrev Clearing := String × Option Json

/-- Whether a binding was asked for with other arguments before. -/
def dependencyChanged (previous args : Option (List Json)) : RequestOutcome → Bool
  | .issued _ => previous.isSome && previous != args
  | .cleared => true
  | .unchanged => false

def requestOptions (engine : Engine) (key : String) (source : OptionsSource)
    (args : Option (List Json)) (force : Bool) : Engine × RequestOutcome :=
  let (store, outcome) :=
    engine.store.request key engine.next (.field key) source args force
  ({ engine with
      store
      pending := engine.pending ++ outcome.ticket?.toList
      next := engine.next + 1 }, outcome)

/-- Whether a write has touched a binding whose source keeps no answers. -/
def isForced (touched : Option String) (binding : OptionBinding) : Bool :=
  !binding.source.caches
    && touched.any fun key => binding.dependencies.any fun dependency => touches key dependency

/-- Asks for the options of a binding and notes whether its field is to be cleared. -/
def requestBinding (touched : Option String) (state : Engine × List Clearing)
    (binding : OptionBinding) : Engine × List Clearing :=
  let (engine, clearings) := state
  let previous := (engine.store.slotOrEmpty binding.key).requestedFor
  let (engine, outcome) :=
    engine.requestOptions binding.key binding.source binding.args (isForced touched binding)
  if dependencyChanged previous binding.args outcome && engine.options.resetDependents
      && !binding.dependencies.isEmpty then
    (engine, clearings ++ [(binding.key, binding.field.clearedValue)])
  else (engine, clearings)

/-- Whether a field already has the value it would be cleared to. -/
def isCleared (current fallback : Option Json) : Bool :=
  match fallback with
  | some fallback => current == some fallback
  | none => isMissing current

/-- Clears a field unless it is cleared already, and tells whether it was not. -/
def applyClearing (state : Store × Bool) (clearing : Clearing) : Store × Bool :=
  let (store, changed) := state
  match FieldPath.parse clearing.1 with
  | .error _ => (store, changed)
  | .ok path =>
    if isCleared (store.value? path) clearing.2 then (store, changed)
    else
      match clearing.2 with
      | some fallback => (store.setValue path fallback, true)
      | none => (store.removeValue path, true)

/-- One pass over the bindings. Tells whether a field was cleared. -/
def syncPass (touched : Option String) (engine : Engine) (bindings : List OptionBinding) :
    Engine × Bool :=
  let (engine, clearings) := bindings.foldl (requestBinding touched) (engine, [])
  let (store, changed) := clearings.foldl applyClearing (engine.store, false)
  ({ engine with store }, changed)

/-- Makes passes until nothing is cleared. More passes than bindings are a sign of dependencies
that go in a circle, and end the attempt. The first number bounds the passes left, the second
counts those that cleared something. -/
def syncPasses (touched : Option String) : Nat → Nat → Engine → Engine
  | 0, _, engine => engine
  | fuel + 1, passes, engine =>
    let bindings := optionBindings engine.form.fields engine.values
    let noted := engine.note (optionBindingNotices engine.form.fields engine.values)
    let (engine, changed) := syncPass touched noted bindings
    if !changed then engine
    else if bindings.length < passes + 1 then
      engine.note [.dependenciesUnsettled (passes + 1)]
    else syncPasses touched fuel (passes + 1) engine

/-- More passes than there can be bindings. Clearing takes items away; only a field whose name
looks like a path can add some, and the slack is for those. -/
def passBound (engine : Engine) : Nat :=
  (walk .everything engine.values .root engine.form.fields).length + Nat.pow 2 20

/-- Asks for the options of every visible field. -/
def syncOptions (engine : Engine) (touched : Option String) : Engine :=
  syncPasses touched engine.passBound 0 engine

/-- Brings flows and options up to date after a write to a path. -/
def refreshDerived (engine : Engine) (touched : Option String) : Engine :=
  engine.syncFlows.syncOptions touched

structure Mounting where
  form : Form
  functions : FunctionTable
  validators : Validators
  options : EngineOptions
  /-- Values laid over those the form starts with. -/
  data : Option Json

def Mounting.initialValues (mounting : Mounting) : Json :=
  let start := DeclarativeForm.initialValues mounting.form.fields
  match mounting.data with
  | some data => start.overlay data
  | none => start

def Mounting.trigger (mounting : Mounting) : Trigger :=
  (mounting.options.trigger.or (mounting.form.validation.map ValidationTiming.trigger)).getD .blur

/-- The steps of a wizard, or one step. -/
def Mounting.totalSteps (mounting : Mounting) : Nat :=
  if mounting.form.isWizard then mounting.form.steps.length else 1

/-- A form on its first step, before anything was derived from its values. -/
def unfolded (mounting : Mounting) : Engine where
  form := mounting.form
  functions := mounting.functions
  validators := mounting.validators
  options := mounting.options
  trigger := mounting.trigger
  store := .ofInitial mounting.initialValues
  navigator := .ofTotal mounting.totalSteps
  status := .ready
  pending := []
  next := 1
  events := []
  notices := []

/-- A form on its first step, with its options asked for. -/
def mount (mounting : Mounting) : Engine := (unfolded mounting).refreshDerived none

end DeclarativeForm.Engine
