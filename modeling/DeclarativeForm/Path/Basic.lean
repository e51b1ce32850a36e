/-!
Addresses of values in a form. A path is a list of segments: a key goes into an object, an index
into an array. Its text joins keys with points and puts indices in brackets, as in
`contacts[2].email`. Sections add no segment; items of a repeatable add an index.
-/

set_option autoImplicit false

namespace DeclarativeForm

inductive Segment
  | key (name : String)
  | index (position : Nat)
deriving DecidableEq, Repr

structure FieldPath where
  segments : List Segment
deriving DecidableEq, Repr, Inhabited

namespace FieldPath

def root : FieldPath := ⟨[]⟩

def key (name : String) : FieldPath := ⟨[.key name]⟩

def isEmpty (path : FieldPath) : Bool := path.segments.isEmpty

def child (path : FieldPath) (name : String) : FieldPath := ⟨path.segments ++ [.key name]⟩

def item (path : FieldPath) (position : Nat) : FieldPath :=
  ⟨path.segments ++ [.index position]⟩

/-- The last key, which is the field's own name. -/
def leafName (path : FieldPath) : Option String :=
  path.segments.reverse.findSome? fun
    | .key name => some name
    | .index _ => none

/-- A segment as it is written after another one. -/
def laterSegment : Segment → List Char
  | .key name => '.' :: name.toList
  | .index position => '[' :: (toString position).toList ++ [']']

/-- A segment as it is written at the start. -/
def firstSegment : Segment → List Char
  | .key name => name.toList
  | .index position => laterSegment (.index position)

def characters : List Segment → List Char
  | [] => []
  | first :: later => firstSegment first ++ later.flatMap laterSegment

def text (path : FieldPath) : String := String.ofList (characters path.segments)

end FieldPath

end DeclarativeForm
