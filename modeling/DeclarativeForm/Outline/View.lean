import DeclarativeForm.Engine.Fetch
import DeclarativeForm.Engine.Flow
import DeclarativeForm.Engine.Wizard

/-!
What a form shows. Every visible node of the current step has a view, which holds all that a
presentation of the node needs: its value, its error, its options, and the views of the nodes
inside it. Hidden nodes have no views.
-/

set_option autoImplicit false

namespace DeclarativeForm

/-- Where a view stands: the place of its node, and how deep it is nested. -/
structure ViewPlace where
  context : Context
  depth : Nat
deriving Repr

namespace ViewPlace

def root : ViewPlace := ⟨.root, 0⟩

def nested (place : ViewPlace) : ViewPlace := ⟨place.context, place.depth + 1⟩

def enterItem (place : ViewPlace) (repeatable : FieldPath) (index : Nat) : ViewPlace :=
  ⟨place.context.enterItem repeatable index, place.depth + 1⟩

end ViewPlace

structure LeafView where
  field : Leaf
  path : String
  value : Option Json
  error : Option String
  options : List Choice
  loading : Bool
  isOpen : Bool
  isRevealed : Bool
  strength : Option Password.Strength
deriving Repr

structure RepeatableView where
  head : Repeatable
  path : String
  count : Nat
  canAdd : Bool
  canRemove : Bool
  error : Option String
deriving Repr

structure FlowStepView where
  step : FlowStep
  value : String
  options : List Choice
  loading : Bool
  enabled : Bool
  error : Option String
deriving Repr

structure FlowView where
  flow : Flow
  path : String
  steps : List FlowStepView
  complete : Bool
  error : Option String
deriving Repr

/-- The view of a node. A leaf of a kind that is not known has a view of its own. -/
inductive View
  | leaf (place : ViewPlace) (view : LeafView)
  | unsupported (place : ViewPlace) (field : Leaf)
  | group (place : ViewPlace) (head : Section) (children : List View)
  | repeatable (place : ViewPlace) (view : RepeatableView) (items : List (List View))
  | flow (place : ViewPlace) (view : FlowView)
deriving Repr

namespace Engine

/-- The length a password should have when no rule says so. -/
def passwordLength : Nat := 8

def strengthOf (leaf : Leaf) (value : Option Json) : Option Password.Strength :=
  if leaf.kind = .password && leaf.showPasswordStrength then
    let least := ((leaf.validation.bind RuleSet.minLength).bind Rule.thresholdCount).getD
      passwordLength
    some (Password.strength ((value.bind Json.text?).getD "") least)
  else none

def leafView (engine : Engine) (place : ViewPlace) (leaf : Leaf) : LeafView :=
  let path := (place.context.pathFor leaf.name).text
  let value := engine.value? path
  { field := leaf
    path
    value
    error := engine.error? path
    options := engine.fieldOptions path
    loading := engine.isLoading path
    isOpen := engine.store.openDropdown = some path
    isRevealed := engine.store.isPasswordShown path
    strength := strengthOf leaf value }

def repeatableView (engine : Engine) (path : FieldPath) (head : Repeatable) (count : Nat) :
    RepeatableView :=
  { head
    path := path.text
    count
    canAdd := head.maxItemCount.all fun most => count < most
    canRemove := head.minItems.getD 0 < count
    error := engine.error? path.text }

def flowStepView (engine : Engine) (path : String) (step : FlowStep) : FlowStepView :=
  let state := ((engine.flowState? path).bind fun state => state.step? step.id).getD .empty
  { step
    value := state.value
    options := state.slot.options
    loading := state.slot.loading
    enabled := engine.isFlowStepEnabled path step.id
    error := engine.error? (path ++ "." ++ step.id) }

def flowView (engine : Engine) (place : ViewPlace) (flow : Flow) : FlowView :=
  let path := (place.context.pathFor flow.name).text
  { flow
    path
    steps := flow.steps.map (engine.flowStepView path)
    complete := engine.isFlowComplete path
    error := engine.error? path }

def shows (engine : Engine) (place : ViewPlace) (showWhen : Option ConditionGroup) : Bool :=
  isShown showWhen (place.context.scope engine.values)

mutual

def nodeView (engine : Engine) (place : ViewPlace) : Node → List View
  | .leaf leaf =>
    if engine.shows place leaf.showWhen then
      if leaf.kind.isUnsupported then [.unsupported place leaf]
      else [.leaf place (engine.leafView place leaf)]
    else []
  | .group head fields =>
    if engine.shows place head.showWhen then
      [.group place head (nodeViews engine place.nested fields)]
    else []
  | .repeatable head template =>
    if engine.shows place head.showWhen then
      let path := place.context.pathFor head.name
      let count := itemCount path engine.values
      [.repeatable place (engine.repeatableView path head count)
        ((List.range count).map fun index =>
          nodeViews engine (place.enterItem path index) template)]
    else []
  | .flow flow =>
    if engine.shows place flow.showWhen then [.flow place (engine.flowView place flow)] else []
termination_by structural node => node

def nodeViews (engine : Engine) (place : ViewPlace) : List Node → List View
  | [] => []
  | node :: rest => nodeView engine place node ++ nodeViews engine place rest
termination_by structural nodes => nodes

end

def views (engine : Engine) : List View := engine.nodeViews .root engine.currentNodes

/-- What collecting the views notices: fields of kinds that are not known. -/
def viewNotices (engine : Engine) : List Notice :=
  engine.currentNodesNotices
    ++ walkNotices .visible engine.values (fun visit =>
      match visit.node with
      | .leaf leaf =>
        if leaf.kind.isUnsupported then [.unsupportedKind leaf.name leaf.kind.name] else []
      | _ => []) .root engine.currentNodes

end Engine

end DeclarativeForm
