import DeclarativeForm.Binary64.Shortest
import DeclarativeForm.Json.Basic

/-!
JSON text. A double is written with its shortest digits: positionally with at least one place
while its leading digit stands between `10 ^ -5` and `10 ^ 15`, and otherwise in scientific form
with a signed exponent. Values are written on one line without blanks, or laid out with one member
or item per line.
-/

set_option autoImplicit false

namespace DeclarativeForm

/-- Which leading exponents a number format writes positionally. -/
structure NumeralFormat where
  smallestPositional : Int
  largestPositional : Int

/-- Doubles in JSON are positional from `0.00001` up to sixteen digits before the point. -/
def Json.numeralFormat : NumeralFormat := ⟨-5, 15⟩

namespace NumeralFormat

/-- Digits with a point after the first `whole` of them. -/
def pointed (digits : List Char) (whole : Nat) : List Char :=
  digits.take whole ++ '.' :: digits.drop whole

/-- The text of a decimal that has no trailing zero digit. -/
def write (format : NumeralFormat) (negative : Bool) (decimal : Decimal) : String :=
  let digits := Nat.toDigits 10 decimal.digits
  let leading : Int := decimal.exponent + (digits.length : Int) - 1
  let unsigned : List Char :=
    if decimal.digits = 0 then ['0', '.', '0']
    else if leading < format.smallestPositional ∨ format.largestPositional < leading then
      let mantissa := match digits with
        | [digit] => [digit]
        | digits => pointed digits 1
      let power := (toString leading.natAbs).toList
      mantissa ++ 'e' :: (if leading < 0 then '-' else '+') :: power
    else if 0 ≤ decimal.exponent then
      digits ++ List.replicate decimal.exponent.toNat '0' ++ ['.', '0']
    else if 0 ≤ leading then pointed digits (leading.toNat + 1)
    else ['0', '.'] ++ List.replicate (-leading - 1).toNat '0' ++ digits
  String.ofList (if negative then '-' :: unsigned else unsigned)

end NumeralFormat

def Binary64.toJsonText (x : Binary64) : String :=
  Json.numeralFormat.write x.negative x.shortest

def Number.text : Number → String
  | .integer value => toString value
  | .double value => value.toJsonText

namespace Json

def hexDigit (value : Nat) : Char := Nat.digitChar (value % 16)

/-- The text a character is written as inside a string. -/
def escapeChar (c : Char) : List Char :=
  if c = '"' then ['\\', '"']
  else if c = '\\' then ['\\', '\\']
  else if c = '\n' then ['\\', 'n']
  else if c = '\r' then ['\\', 'r']
  else if c = '\t' then ['\\', 't']
  else if c = Char.ofNat 8 then ['\\', 'b']
  else if c = Char.ofNat 12 then ['\\', 'f']
  else if c.toNat < 32 then ['\\', 'u', '0', '0', hexDigit (c.toNat / 16), hexDigit c.toNat]
  else [c]

def quote (text : String) : String :=
  String.ofList ('"' :: (text.toList.flatMap escapeChar ++ ['"']))

def commaSeparated : List String → String
  | [] => ""
  | [text] => text
  | text :: rest => text ++ "," ++ commaSeparated rest

mutual

/-- The text of a value on one line, without blanks. -/
def compact : Json → String
  | .null => "null"
  | .bool true => "true"
  | .bool false => "false"
  | .number value => value.text
  | .string text => quote text
  | .array items => "[" ++ commaSeparated (compactItems items) ++ "]"
  | .object members => "\x7b" ++ commaSeparated (compactMembers members) ++ "\x7d"
termination_by structural value => value

def compactItems : List Json → List String
  | [] => []
  | value :: rest => compact value :: compactItems rest
termination_by structural items => items

def compactMembers : List (String × Json) → List String
  | [] => []
  | (key, value) :: rest => (quote key ++ ":" ++ compact value) :: compactMembers rest
termination_by structural members => members

end

/-- A line feed and the indentation of a depth. -/
def lineBreak (depth : Nat) : String := String.ofList ('\n' :: List.replicate (2 * depth) ' ')

/-- Puts each text on a line of its own between two brackets. -/
def bracketed (depth : Nat) (opening closing : String) (texts : List String) : String :=
  if texts.isEmpty then opening ++ closing
  else
    opening ++ lineBreak (depth + 1)
      ++ String.intercalate ("," ++ lineBreak (depth + 1)) texts
      ++ lineBreak depth ++ closing

mutual

/-- The text of a value with one item or member per line, indented by two blanks a level. -/
def pretty (depth : Nat) : Json → String
  | .array items => bracketed depth "[" "]" (prettyItems (depth + 1) items)
  | .object members => bracketed depth "\x7b" "\x7d" (prettyMembers (depth + 1) members)
  | .null => "null"
  | .bool true => "true"
  | .bool false => "false"
  | .number value => value.text
  | .string text => quote text
termination_by structural value => value

def prettyItems (depth : Nat) : List Json → List String
  | [] => []
  | value :: rest => pretty depth value :: prettyItems depth rest
termination_by structural items => items

def prettyMembers (depth : Nat) : List (String × Json) → List String
  | [] => []
  | (key, value) :: rest =>
    (quote key ++ ": " ++ pretty depth value) :: prettyMembers depth rest
termination_by structural members => members

end

end Json

example : (Binary64.ofNat 18446744073709551616).toJsonText = "1.8446744073709552e+19" := by
  decide +kernel
example : Binary64.toJsonText ⟨true, 0⟩ = "-0.0" := by decide +kernel
example : Binary64.toJsonText (Binary64.nearest false 1 10000000) = "1e-7" := by decide +kernel

end DeclarativeForm
