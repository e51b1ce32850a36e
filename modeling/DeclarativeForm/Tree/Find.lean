import DeclarativeForm.Schema.Node

/-!
Finding nodes by name. The nodes of a list and of the sections in it share one namespace; a name
is looked for in the order of declaration, and a section is found by its own name before the
nodes in it.
-/

set_option autoImplicit false

namespace DeclarativeForm

mutual

/-- The node itself or a node inside it, if it is a section, with a name. -/
def Node.findNamed (name : String) : Node → Option Node
  | .group head fields =>
    if head.name = name then some (.group head fields) else findByName name fields
  | .leaf field => if field.name = name then some (.leaf field) else none
  | .repeatable head template =>
    if head.name = name then some (.repeatable head template) else none
  | .flow field => if field.name = name then some (.flow field) else none
termination_by structural node => node

/-- The first node with a name, looking through sections. -/
def findByName (name : String) : List Node → Option Node
  | [] => none
  | node :: rest =>
    match Node.findNamed name node with
    | some found => some found
    | none => findByName name rest
termination_by structural nodes => nodes

end

end DeclarativeForm
