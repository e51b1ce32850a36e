import DeclarativeForm.Binary64.Numeral
import DeclarativeForm.Json.Printer
import DeclarativeForm.Text.Blank

/-!
How form values are read as truth values, numbers and texts. An absent value is `none`. Numbers
compare by magnitude, so an integer equals the double next to it, but only where two values as a
whole are compared: inside arrays and objects integers and doubles stay apart.
-/

set_option autoImplicit false

namespace DeclarativeForm

/-- Nothing to speak of: absent, null, a blank string or an empty list. -/
def isMissing : Option Json → Bool
  | none => true
  | some .null => true
  | some (.string text) => Text.isAllBlank text
  | some (.array items) => items.isEmpty
  | some _ => false

/-- Absence, null, `false`, zero and the empty string are not truthy. -/
def isTruthy : Option Json → Bool
  | none => false
  | some .null => false
  | some (.bool value) => value
  | some (.number value) => value.toDouble.magnitude ≠ 0
  | some (.string text) => !text.isEmpty
  | some (.array _) => true
  | some (.object _) => true

namespace Json

/-- The value as a number: a number, a numeral in a string, or a truth value as one or zero. -/
def toNumber? : Json → Option Binary64
  | .number value => some value.toDouble
  | .string text => Binary64.ofNumeral? (Text.trim text)
  | .bool value => some (if value then Binary64.one else Binary64.zero)
  | _ => none

/-- Equality of form values: numbers by magnitude, everything else as JSON. -/
def agrees : Json → Json → Bool
  | .number x, .number y => x.toDouble.rank == y.toDouble.rank
  | x, y => x == y

/-- Joins texts with a comma and a blank. -/
def commaJoined : List String → String
  | [] => ""
  | [text] => text
  | text :: rest => text ++ ", " ++ commaJoined rest

mutual

/-- The value as a text for people: strings as they are, null as nothing, lists joined. -/
def displayText : Json → String
  | .null => ""
  | .bool value => if value then "true" else "false"
  | .number value => value.text
  | .string text => text
  | .array items => commaJoined (displayTexts items)
  | .object members => (Json.object members).compact
termination_by structural value => value

def displayTexts : List Json → List String
  | [] => []
  | value :: rest => displayText value :: displayTexts rest
termination_by structural items => items

end

end Json

end DeclarativeForm
