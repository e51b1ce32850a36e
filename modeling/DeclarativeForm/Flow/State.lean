import DeclarativeForm.Coercion
import DeclarativeForm.Keyed
import DeclarativeForm.Options.Slot
import DeclarativeForm.Schema.Node
import DeclarativeForm.Scope

/-!
Flows. A flow is filled in step by step; a step is open once the one before it has a value.
Choosing a value for a step empties all later ones and fetches options for those that depend on
it. The flow as a whole has the value of its output step.
-/

set_option autoImplicit false

namespace DeclarativeForm

structure FlowStepState where
  value : String
  slot : OptionsSlot
deriving Repr

def FlowStepState.empty : FlowStepState := ⟨"", .empty⟩

/-- The states of the steps of a flow by their ids, in the order of declaration. -/
structure FlowState where
  steps : Keyed FlowStepState
deriving Repr

namespace FlowState

def step? (state : FlowState) (id : String) : Option FlowStepState := state.steps.find? id

def value (state : FlowState) (id : String) : String :=
  match state.step? id with
  | some step => step.value
  | none => ""

def modifyStep (state : FlowState) (id : String) (change : FlowStepState → FlowStepState) :
    FlowState :=
  match state.step? id with
  | some step => ⟨state.steps.put id (change step)⟩
  | none => state

def complete (state : FlowState) (id : String) (ticket : Ticket) (result : FetchResult) :
    Option FlowState := do
  let step ← state.step? id
  let slot ← step.slot.complete ticket result
  some ⟨state.steps.put id { step with slot }⟩

end FlowState

structure FlowChange where
  tickets : List Ticket
  /-- The value of the flow, if the output step was chosen; otherwise the flow has none. -/
  output : Option String
  /-- The steps that were emptied. -/
  reset : List String
deriving Repr

inductive FlowSelection
  | applied (change : FlowChange)
  /-- The step before has no value. -/
  | locked
  | unknownStep
deriving Repr

/-- A flow state, the tickets issued on the way to it, and the next unused generation. -/
structure FlowProgress where
  state : FlowState
  tickets : List Ticket
  next : Nat
deriving Repr

namespace FlowStep

/-- The values of the parameters of a step; missing ones are null. -/
def paramValues (step : FlowStep) (scope : Scope) : List Json :=
  step.optionsSource.params.map fun param =>
    let found := scope.lookup param
    if isMissing found then .null else found.getD .null

/-- Whether the options of a step depend on one other step alone, the one given. -/
def dependsOn (step : FlowStep) (id : String) : Bool :=
  match step.optionsSource.dependsOn with
  | some dependencies => dependencies.isSingle id
  | none => false

/-- The error of a step under its `required` rule. -/
def requiredError? (step : FlowStep) (value : String) : Option String :=
  match step.validation.bind RuleSet.required with
  | some rule =>
    if rule.isEnabled && value.isEmpty then some (rule.messageOr (step.label ++ " is required"))
    else none
  | none => none

end FlowStep

namespace FlowProgress

/-- Requests options for a step whatever it was requested for before. -/
def request (progress : FlowProgress) (path : String) (step : FlowStep) (args : List Json) :
    FlowProgress :=
  match progress.state.step? step.id with
  | none => progress
  | some current =>
    let (slot, outcome) := current.slot.request progress.next (.flowStep path step.id)
      step.optionsSource (some args) true
    { state := ⟨progress.state.steps.put step.id { current with slot }⟩
      tickets := progress.tickets ++ outcome.ticket?.toList
      next := progress.next + 1 }

def clear (progress : FlowProgress) (id : String) : FlowProgress :=
  { progress with
    state := progress.state.modifyStep id fun step => ⟨"", step.slot.reset progress.next⟩
    next := progress.next + 1 }

end FlowProgress

namespace Flow

/-- The state of a flow nothing was chosen in. Options are requested for its first step, unless
that depends on something. -/
def start (flow : Flow) (path : String) (scope : Scope) (next : Nat) : FlowProgress :=
  let fresh : FlowProgress :=
    ⟨⟨Keyed.ofList (flow.steps.map fun step => (step.id, .empty))⟩, [], next⟩
  match flow.steps with
  | [] => fresh
  | first :: _ =>
    if first.optionsSource.dependsOn.isNone then
      fresh.request path first (first.paramValues scope)
    else fresh

/-- A step is open when it is the first or the one before it has a value. -/
def isStepEnabled (flow : Flow) (state : FlowState) (index : Nat) : Bool :=
  match index with
  | 0 => true
  | before + 1 =>
    match flow.steps[before]? with
    | some previous => !(state.value previous.id).isEmpty
    | none => false

def isComplete (flow : Flow) (state : FlowState) : Bool :=
  !(state.value flow.outputStepId).isEmpty

/-- The state after a value was chosen for the step at `index`. -/
def choose (flow : Flow) (path : String) (state : FlowState) (index : Nat) (id value : String)
    (scope : Scope) (next : Nat) : FlowProgress :=
  let later := flow.steps.drop (index + 1)
  let chosen := state.modifyStep id fun step => { step with value }
  let emptied := later.foldl (fun progress step => progress.clear step.id)
    (⟨chosen, [], next⟩ : FlowProgress)
  if value.isEmpty then emptied
  else
    (later.filter fun step => step.dependsOn id).foldl
      (fun progress step => progress.request path step (.string value :: step.paramValues scope))
      emptied

/-- Chooses a value for a step: what comes of it, the state afterwards and the next unused
generation. -/
def select (flow : Flow) (path : String) (state : FlowState) (id value : String) (scope : Scope)
    (next : Nat) : FlowSelection × FlowState × Nat :=
  match flow.stepIndex id with
  | none => (.unknownStep, state, next)
  | some index =>
    if flow.isStepEnabled state index then
      let progress := flow.choose path state index id value scope next
      (.applied
          { tickets := progress.tickets
            output := if id = flow.outputStepId then some value else none
            reset := (flow.steps.drop (index + 1)).map FlowStep.id },
        progress.state, progress.next)
    else (.locked, state, next)

/-- The steps whose `required` rule is not met, with their errors. A flow without a state has only
empty steps. -/
def missingRequired (flow : Flow) (state : Option FlowState) : List (String × String) :=
  flow.steps.filterMap fun step =>
    let value := match state with
      | some state => state.value step.id
      | none => ""
    (step.requiredError? value).map fun message => (step.id, message)

end Flow

end DeclarativeForm
