import DeclarativeForm.Schema.Node
import DeclarativeForm.Scope

/-!
Where a node lives: the path that its name is appended to, and the items that enclose it.
-/

set_option autoImplicit false

namespace DeclarativeForm

structure Context where
  parent : FieldPath
  /-- The paths of the enclosing items, from the outermost inward. -/
  items : List FieldPath
deriving DecidableEq, Repr, Inhabited

namespace Context

def root : Context := ⟨.root, []⟩

def pathFor (context : Context) (name : String) : FieldPath := context.parent.child name

def enterItem (context : Context) (repeatable : FieldPath) (index : Nat) : Context :=
  ⟨repeatable.item index, context.items ++ [repeatable.item index]⟩

def index (context : Context) : Option Nat :=
  match context.items.getLast? with
  | none => none
  | some item =>
    match item.segments.getLast? with
    | some (.index position) => some position
    | _ => none

/-- What a node at this place can see of the values. -/
def scope (context : Context) (values : Json) : Scope := .within values context.items

/-- The path of a node at this place. A section has the path of its place. -/
def pathOf (context : Context) (node : Node) : FieldPath :=
  if node.isGroup then context.parent else context.pathFor node.name

end Context

def itemCount (path : FieldPath) (values : Json) : Nat :=
  match path.get? values with
  | some (.array items) => items.length
  | _ => 0

/-- The first index of the segments that has no item, with the path of its repeatable. -/
def missingItemFrom (values : Json) (before : FieldPath) :
    List Segment → Option (FieldPath × Nat)
  | [] => none
  | .key name :: rest => missingItemFrom values (before.child name) rest
  | .index position :: rest =>
    if itemCount before values ≤ position then some (before, position)
    else missingItemFrom values (before.item position) rest

/-- The first index of a path that has no item, with the path of its repeatable. -/
def missingItem? (path : FieldPath) (values : Json) : Option (FieldPath × Nat) :=
  missingItemFrom values .root path.segments

end DeclarativeForm
