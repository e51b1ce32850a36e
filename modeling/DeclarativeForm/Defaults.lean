import DeclarativeForm.Schema.Node

/-!
The values a form starts with. A leaf starts with its default value, with an empty list or with
`false`, as its kind asks; a repeatable with the items it has to have, or else with those of its
default value laid over fresh ones; a flow with nothing.
-/

set_option autoImplicit false

namespace DeclarativeForm

namespace Json

mutual

/-- Lays a value over another: objects are merged member by member, anything else replaces. -/
def overlay (base : Json) : Json → Json
  | .object patch =>
    match base with
    | .object members => .object (overlayMembers members patch)
    | _ => .object patch
  | patch => patch
termination_by structural patch => patch

def overlayMembers (base : List (String × Json)) : List (String × Json) → List (String × Json)
  | [] => base
  | (key, value) :: rest =>
    let merged := match Members.find? key base with
      | some existing => overlay existing value
      | none => value
    overlayMembers (Members.insert key merged base) rest
termination_by structural patch => patch

end

end Json

namespace LeafKind

/-- The value a kind asks for when there is none: an empty list, `false`, or nothing. -/
def emptyValue (kind : LeafKind) : Option Json :=
  if kind.isMultiValued then some (.array [])
  else if kind.isToggle then some (.bool false)
  else none

end LeafKind

namespace Leaf

def initialValue (leaf : Leaf) : Option Json :=
  match leaf.defaultValue with
  | some value => some value
  | none => leaf.kind.emptyValue

/-- The value a leaf goes back to when what it depends on has changed. -/
def clearedValue (leaf : Leaf) : Option Json := leaf.kind.emptyValue

end Leaf

/-- The items a repeatable starts with, given a fresh item. -/
def Repeatable.initialItems (repeatable : Repeatable) (fresh : Json) : Json :=
  match repeatable.minItems with
  | some least => .array (List.replicate (max least 1) fresh)
  | none =>
    match repeatable.defaultValue with
    | some (.array items) => .array (items.map fun item => fresh.overlay item)
    | _ => .array []

mutual

/-- Adds what a node starts with to the members collected so far. -/
def Node.addDefaults (members : List (String × Json)) : Node → List (String × Json)
  | .leaf field =>
    match field.initialValue with
    | some value => Members.insert field.name value members
    | none => members
  | .group _ fields => addDefaults members fields
  | .repeatable head template =>
    Members.insert head.name (head.initialItems (.object (addDefaults [] template))) members
  | .flow _ => members
termination_by structural node => node

def addDefaults (members : List (String × Json)) : List Node → List (String × Json)
  | [] => members
  | node :: rest => addDefaults (Node.addDefaults members node) rest
termination_by structural nodes => nodes

end

/-- What a form with some fields starts with; also a fresh item of a template. -/
def initialValues (fields : List Node) : Json := .object (addDefaults [] fields)

end DeclarativeForm
