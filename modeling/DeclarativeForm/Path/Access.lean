import DeclarativeForm.Path.Basic
import DeclarativeForm.Json.Basic

/-!
Reading and writing JSON values by path. Reading fails at the first segment that does not fit the
value it meets. Writing makes the objects and arrays it needs, replaces what is in their way and
fills the gap before a new item with nulls. Removing takes a member out of an object or an item
out of an array.
-/

set_option autoImplicit false

namespace DeclarativeForm.FieldPath

def getAt : List Segment → Json → Option Json
  | [], value => some value
  | .key name :: rest, .object members => (Members.find? name members).bind (getAt rest)
  | .index position :: rest, .array items => items[position]?.bind (getAt rest)
  | _ :: _, _ => none

def get? (path : FieldPath) (value : Json) : Option Json := getAt path.segments value

/-- The items with nulls appended until there is one at a position. -/
def padded (items : List Json) (position : Nat) : List Json :=
  items ++ List.replicate (position + 1 - items.length) .null

/-- The value with another one written under a list of segments. -/
def setAt : List Segment → Json → Json → Json
  | [], _, written => written
  | .key name :: rest, value, written =>
    let inner := (Members.find? name value.members).getD .null
    .object (Members.insert name (setAt rest inner written) value.members)
  | .index position :: rest, value, written =>
    let items := padded value.items position
    let inner := items[position]?.getD .null
    .array (items.set position (setAt rest inner written))

def set (path : FieldPath) (value written : Json) : Json := setAt path.segments value written

/-- What is under a list of segments, and the value without it. -/
def removeAt : List Segment → Json → Option (Json × Json)
  | [.key name], .object members =>
    (Members.find? name members).map fun removed =>
      (removed, .object (Members.erase name members))
  | [.index position], .array items =>
    items[position]?.map fun removed => (removed, .array (items.eraseIdx position))
  | .key name :: next :: rest, .object members => do
    let inner ← Members.find? name members
    let (removed, left) ← removeAt (next :: rest) inner
    some (removed, .object (Members.replace name left members))
  | .index position :: next :: rest, .array items => do
    let inner ← items[position]?
    let (removed, left) ← removeAt (next :: rest) inner
    some (removed, .array (items.set position left))
  | _, _ => none

/-- What a path holds, and the value without it; nothing when it holds nothing. -/
def remove? (path : FieldPath) (value : Json) : Option (Json × Json) :=
  removeAt path.segments value

def without (path : FieldPath) (value : Json) : Json :=
  match path.remove? value with
  | some (_, left) => left
  | none => value

/-- Puts another value where a path holds one, and gives back the old one. -/
def exchange? (path : FieldPath) (value written : Json) : Option (Json × Json) :=
  (path.get? value).map fun old => (old, path.set value written)

theorem length_padded (items : List Json) (position : Nat) :
    (padded items position).length = max items.length (position + 1) := by
  simp [padded]; omega

end DeclarativeForm.FieldPath
