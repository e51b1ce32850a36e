import DeclarativeForm.Binary64.Rounding
import DeclarativeForm.Json.Members

/-!
JSON values. A number is an integer or a double, as its literal says; equality keeps the two
apart, compares integers exactly and takes the two zeros for one. Objects are member lists in the
order of their keys, so equal objects have their members in the same places.
-/

set_option autoImplicit false

namespace DeclarativeForm

inductive Number
  | integer (value : Int)
  | double (value : Binary64)
deriving DecidableEq, Repr, Inhabited

namespace Number

def toDouble : Number → Binary64
  | integer value => Binary64.ofInt value
  | double value => value

/-- Equality of JSON numbers: integers with integers, doubles with doubles by rank. -/
def same : Number → Number → Bool
  | integer x, integer y => x == y
  | double x, double y => x.rank == y.rank
  | _, _ => false

@[simp] theorem same_self (x : Number) : same x x = true := by
  cases x <;> simp [same]

end Number

inductive Json
  | null
  | bool (value : Bool)
  | number (value : Number)
  | string (value : String)
  | array (items : List Json)
  | object (members : List (String × Json))
deriving Repr, Inhabited

namespace Json

mutual

def same : Json → Json → Bool
  | .null, .null => true
  | .bool x, .bool y => x == y
  | .number x, .number y => x.same y
  | .string x, .string y => x == y
  | .array xs, .array ys => sameItems xs ys
  | .object xs, .object ys => sameMembers xs ys
  | _, _ => false
termination_by structural value => value

def sameItems : List Json → List Json → Bool
  | [], [] => true
  | x :: xs, y :: ys => same x y && sameItems xs ys
  | _, _ => false
termination_by structural items => items

def sameMembers : List (String × Json) → List (String × Json) → Bool
  | [], [] => true
  | (key, x) :: xs, (other, y) :: ys => key == other && same x y && sameMembers xs ys
  | _, _ => false
termination_by structural members => members

end

instance : BEq Json := ⟨same⟩

def ofNat (value : Nat) : Json := .number (.integer value)

def isObject : Json → Bool
  | .object _ => true
  | _ => false

def isArray : Json → Bool
  | .array _ => true
  | _ => false

def text? : Json → Option String
  | .string value => some value
  | _ => none

def member? (key : String) : Json → Option Json
  | .object members => Members.find? key members
  | _ => none

/-- The members of an object, and no members of anything else. -/
def members : Json → List (String × Json)
  | .object members => members
  | _ => []

/-- The items of an array, and no items of anything else. -/
def items : Json → List Json
  | .array items => items
  | _ => []

mutual

theorem same_self : ∀ value : Json, same value value = true
  | .null => rfl
  | .bool value => by simp [same]
  | .number value => by simp [same]
  | .string value => by simp [same]
  | .array items => by simpa [same] using sameItems_self items
  | .object members => by simpa [same] using sameMembers_self members

theorem sameItems_self : ∀ items : List Json, sameItems items items = true
  | [] => rfl
  | value :: rest => by simp [sameItems, same_self value, sameItems_self rest]

theorem sameMembers_self : ∀ members : List (String × Json), sameMembers members members = true
  | [] => rfl
  | (key, value) :: rest => by simp [sameMembers, same_self value, sameMembers_self rest]

end

instance : ReflBEq Json := ⟨fun {value} => same_self value⟩

end Json

end DeclarativeForm
