import DeclarativeForm.Tree.Context
import DeclarativeForm.Visibility

/-!
Walking over the nodes of a form together with its values, depth first and in the order of
declaration. A walk goes into sections and into every item of a repeatable. A walk over what is
visible leaves out each node that is not shown, with everything inside it.
-/

set_option autoImplicit false

namespace DeclarativeForm

inductive Reach
  | everything
  | visible
deriving DecidableEq, Repr

/-- A node that a walk has come to. -/
structure Visit where
  node : Node
  path : FieldPath
  context : Context
deriving Repr

/-- Whether a walk goes to a node with a condition. -/
def Reach.admits (reach : Reach) (values : Json) (context : Context)
    (showWhen : Option ConditionGroup) : Bool :=
  match reach with
  | .everything => true
  | .visible => isShown showWhen (context.scope values)

mutual

def Node.walk (reach : Reach) (values : Json) (context : Context) : Node → List Visit
  | .leaf field =>
    if reach.admits values context field.showWhen then
      [⟨.leaf field, context.pathFor field.name, context⟩]
    else []
  | .group head fields =>
    if reach.admits values context head.showWhen then
      ⟨.group head fields, context.parent, context⟩ :: walk reach values context fields
    else []
  | .repeatable head template =>
    if reach.admits values context head.showWhen then
      let path := context.pathFor head.name
      ⟨.repeatable head template, path, context⟩
        :: (List.range (itemCount path values)).flatMap fun index =>
          walk reach values (context.enterItem path index) template
    else []
  | .flow field =>
    if reach.admits values context field.showWhen then
      [⟨.flow field, context.pathFor field.name, context⟩]
    else []
termination_by structural node => node

def walk (reach : Reach) (values : Json) (context : Context) : List Node → List Visit
  | [] => []
  | node :: rest => Node.walk reach values context node ++ walk reach values context rest
termination_by structural nodes => nodes

end

/-- What deciding whether to go to a node notices. -/
def Reach.notices (reach : Reach) (values : Json) (context : Context)
    (showWhen : Option ConditionGroup) : List Notice :=
  match reach with
  | .everything => []
  | .visible => shownNotices showWhen (context.scope values)

mutual

/-- What a walk that starts at a node notices, with the notices of each visit in their places. -/
def Node.walkNotices (reach : Reach) (values : Json) (ofVisit : Visit → List Notice)
    (context : Context) : Node → List Notice
  | .leaf field =>
    reach.notices values context field.showWhen
      ++ if reach.admits values context field.showWhen then
        ofVisit ⟨.leaf field, context.pathFor field.name, context⟩
      else []
  | .group head fields =>
    reach.notices values context head.showWhen
      ++ if reach.admits values context head.showWhen then
        ofVisit ⟨.group head fields, context.parent, context⟩
          ++ walkNotices reach values ofVisit context fields
      else []
  | .repeatable head template =>
    reach.notices values context head.showWhen
      ++ if reach.admits values context head.showWhen then
        let path := context.pathFor head.name
        ofVisit ⟨.repeatable head template, path, context⟩
          ++ (List.range (itemCount path values)).flatMap fun index =>
            walkNotices reach values ofVisit (context.enterItem path index) template
      else []
  | .flow field =>
    reach.notices values context field.showWhen
      ++ if reach.admits values context field.showWhen then
        ofVisit ⟨.flow field, context.pathFor field.name, context⟩
      else []
termination_by structural node => node

def walkNotices (reach : Reach) (values : Json) (ofVisit : Visit → List Notice)
    (context : Context) : List Node → List Notice
  | [] => []
  | node :: rest =>
    Node.walkNotices reach values ofVisit context node
      ++ walkNotices reach values ofVisit context rest
termination_by structural nodes => nodes

end

def leafPaths (fields : List Node) (values : Json) : List FieldPath :=
  (walk .everything values .root fields).filterMap fun visit =>
    match visit.node with
    | .leaf _ => some visit.path
    | _ => none

structure FlowPlace where
  path : FieldPath
  flow : Flow
  context : Context
deriving Repr

def flowPlaces (fields : List Node) (values : Json) : List FlowPlace :=
  (walk .everything values .root fields).filterMap fun visit =>
    match visit.node with
    | .flow flow => some ⟨visit.path, flow, visit.context⟩
    | _ => none

end DeclarativeForm
