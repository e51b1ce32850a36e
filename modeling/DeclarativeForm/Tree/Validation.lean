import DeclarativeForm.Store
import DeclarativeForm.Tree.Count
import DeclarativeForm.Tree.Locate
import DeclarativeForm.Tree.Walk
import DeclarativeForm.Validation.Rules

/-!
Validating a form. Every visible node has its own errors, keyed by the texts of paths: a leaf the
first failure of its rules, a repeatable that of its number of items, a flow those of its steps
and that of its value. The errors of a form are those of the nodes a walk over what is visible
comes to.
-/

set_option autoImplicit false

namespace DeclarativeForm

structure Snapshot where
  values : Json
  validators : Validators
  flows : Keyed FlowState

namespace Snapshot

def flowFindings (snapshot : Snapshot) (flow : Flow) (visit : Visit) : List Finding :=
  match flow.validation with
  | some rules =>
    rules.findings false (visit.path.get? snapshot.values) (visit.context.scope snapshot.values)
      snapshot.validators
  | none => []

def leafFindings (snapshot : Snapshot) (leaf : Leaf) (visit : Visit) : List Finding :=
  leaf.findings visit.path.text (visit.path.get? snapshot.values)
    (visit.context.scope snapshot.values) snapshot.validators

/-- The errors of a flow: of its steps first, then of its value. -/
def flowErrors (snapshot : Snapshot) (flow : Flow) (visit : Visit) : List (String × String) :=
  let key := visit.path.text
  (flow.missingRequired (snapshot.flows.find? key)).map (fun (step, message) =>
      (key ++ "." ++ step, message))
    ++ match Finding.firstFailure (snapshot.flowFindings flow visit) with
      | some message => [(key, message)]
      | none => []

def errorsOf (snapshot : Snapshot) (visit : Visit) : List (String × String) :=
  match visit.node with
  | .leaf leaf =>
    match Finding.firstFailure (snapshot.leafFindings leaf visit) with
    | some message => [(visit.path.text, message)]
    | none => []
  | .group _ _ => []
  | .repeatable head _ =>
    match head.countError? (itemCount visit.path snapshot.values) with
    | some message => [(visit.path.text, message)]
    | none => []
  | .flow flow => snapshot.flowErrors flow visit

def noticesOf (snapshot : Snapshot) (visit : Visit) : List Notice :=
  match visit.node with
  | .leaf leaf => Finding.notices (snapshot.leafFindings leaf visit)
  | .flow flow => Finding.notices (snapshot.flowFindings flow visit)
  | .group _ _ => []
  | .repeatable _ _ => []

/-- The errors of some top-level nodes and everything in them. -/
def validateNodes (snapshot : Snapshot) (nodes : List Node) : ErrorMap :=
  Keyed.ofList ((walk .visible snapshot.values .root nodes).flatMap snapshot.errorsOf)

def validateNodesNotices (snapshot : Snapshot) (nodes : List Node) : List Notice :=
  walkNotices .visible snapshot.values snapshot.noticesOf .root nodes

def validateAll (snapshot : Snapshot) (fields : List Node) : ErrorMap :=
  snapshot.validateNodes fields

/-- A located node as a walk would visit it. Its path is that of its name, even for a section. -/
def visitOf (located : Located) : Visit :=
  ⟨located.node, located.context.pathFor located.node.name, located.context⟩

/-- The errors of one node on its own, without the nodes in it. -/
def validateLocated (snapshot : Snapshot) (located : Located) : ErrorMap :=
  if isShown located.node.showWhen (located.context.scope snapshot.values) then
    Keyed.ofList (snapshot.errorsOf (visitOf located))
  else []

def validateLocatedNotices (snapshot : Snapshot) (located : Located) : List Notice :=
  shownNotices located.node.showWhen (located.context.scope snapshot.values)
    ++ if isShown located.node.showWhen (located.context.scope snapshot.values) then
      snapshot.noticesOf (visitOf located)
    else []

end Snapshot

/-- The nodes that a step of a wizard lists. -/
def resolveStep (fields : List Node) (names : List String) : List Node :=
  names.filterMap fun name => findByName name fields

def resolveStepNotices (fields : List Node) (names : List String) : List Notice :=
  (names.filter fun name => (findByName name fields).isNone).map .unknownWizardField

mutual

/-- The keys in the error map that a top-level node owns; a section owns those of its nodes. -/
def Node.ownedKeys : Node → List String
  | .group _ fields => ownedKeys fields
  | .leaf field => [field.name]
  | .repeatable head _ => [head.name]
  | .flow field => [field.name]
termination_by structural node => node

def ownedKeys : List Node → List String
  | [] => []
  | node :: rest => Node.ownedKeys node ++ ownedKeys rest
termination_by structural nodes => nodes

end

end DeclarativeForm
