import DeclarativeForm.Binary64.Numeral
import DeclarativeForm.Json.Basic
import DeclarativeForm.Text.Blank

/-!
Validation rules as they are declared. A rule has a value and a message; limits read their value
as a number, also from a string.
-/

set_option autoImplicit false

namespace DeclarativeForm

/-- One rule. An absent value is null, an absent message is empty. -/
structure Rule where
  value : Json
  message : String
deriving Repr

namespace Rule

/-- A rule without a value, or with `false`, is switched off. -/
def isEnabled (rule : Rule) : Bool :=
  match rule.value with
  | .null => false
  | .bool false => false
  | _ => true

/-- The value as a number: a number, or a string that holds a numeral. -/
def threshold (rule : Rule) : Option Binary64 :=
  match rule.value with
  | .number number => some number.toDouble
  | .string text => Binary64.ofNumeral? (Text.trim text)
  | _ => none

/-- The value as a count: its integer part, at most the largest word, if it is not negative. -/
def thresholdCount (rule : Rule) : Option Nat :=
  match rule.threshold with
  | some limit =>
    if Binary64.zero.lessOrEqual limit then some (limit.truncateBelow (Nat.pow 2 64)) else none
  | none => none

def messageOr (rule : Rule) (fallback : String) : String :=
  if rule.message.isEmpty then fallback else rule.message

end Rule

structure CustomRule where
  function : String
  message : String
deriving DecidableEq, Repr

structure RuleSet where
  required : Option Rule
  minLength : Option Rule
  maxLength : Option Rule
  min : Option Rule
  max : Option Rule
  pattern : Option Rule
  custom : Option CustomRule
deriving Repr

namespace RuleSet

def isRequired (rules : RuleSet) : Bool :=
  match rules.required with
  | some rule => rule.isEnabled
  | none => false

end RuleSet

/-- A rule that relates a field to others and asks a named validator. -/
structure CrossRule where
  rule : String
  dependsOn : List String
  message : String
deriving DecidableEq, Repr

end DeclarativeForm
