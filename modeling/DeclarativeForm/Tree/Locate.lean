import DeclarativeForm.Tree.Context
import DeclarativeForm.Tree.Find

/-!
Resolving a path to the node it addresses. A key names a node of the namespace reached so far; an
index after it goes into the template of a repeatable.
-/

set_option autoImplicit false

namespace DeclarativeForm

structure Located where
  node : Node
  context : Context
deriving Repr

def locateFrom (fields : List Node) (context : Context) : List Segment → Option Located
  | [.key name] => (findByName name fields).map fun node => ⟨node, context⟩
  | .key name :: .index position :: rest =>
    match findByName name fields with
    | some (.repeatable head template) =>
      locateFrom template (context.enterItem (context.pathFor head.name) position) rest
    | _ => none
  | _ => none

def locate (fields : List Node) (path : FieldPath) : Option Located :=
  locateFrom fields .root path.segments

end DeclarativeForm
