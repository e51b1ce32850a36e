import DeclarativeForm.Path.Basic
import DeclarativeForm.Text.Blank

/-!
Reading the text of a path. The reader is an automaton over the characters; its state says what it
stands after. A key is a run of characters other than the point and the brackets, an index is a
run of decimal digits below `2 ^ 64`.
-/

set_option autoImplicit false

namespace DeclarativeForm

inductive PathFault
  | blank
  | emptySegment
  | indexWithoutParent
  | indexNotNumeral
  | indexUnterminated
  | indexNotDelimited
  | bracketUnbalanced
  | trailingPoint
deriving DecidableEq, Repr

def PathFault.message : PathFault → String
  | blank => "path is empty"
  | emptySegment => "empty segment"
  | indexWithoutParent => "index without a parent"
  | indexNotNumeral => "index must be a non-negative integer"
  | indexUnterminated => "unterminated index"
  | indexNotDelimited => "index must be followed by '.' or '['"
  | bracketUnbalanced => "unbalanced ']'"
  | trailingPoint => "trailing '.'"

namespace FieldPath

def indexLimit : Nat := Nat.pow 2 64

/-- What the reader stands after. Names and digits are held in reverse. -/
inductive Mark
  | start
  | name (read : List Char)
  | point
  | bracket (digits : List Char)
  | index
deriving DecidableEq, Repr

/-- The value of decimal digits, if there is one and it is an index. -/
def indexOfDigits? (digits : List Char) : Option Nat :=
  let value := digits.foldl (fun value digit => 10 * value + (digit.toNat - 48)) 0
  if digits.isEmpty || decide (indexLimit ≤ value) then none else some value

/-- Reads the segments that end in or start with the characters given. -/
def readFrom : Mark → List Char → Except PathFault (List Segment)
  | .start, [] => .error .trailingPoint
  | .start, c :: rest =>
    if c = '.' then .error .emptySegment
    else if c = '[' then .error .indexWithoutParent
    else if c = ']' then .error .bracketUnbalanced
    else readFrom (.name [c]) rest
  | .name read, [] => .ok [.key (String.ofList read.reverse)]
  | .name read, c :: rest =>
    if c = '.' then
      (readFrom .point rest).map (.key (String.ofList read.reverse) :: ·)
    else if c = '[' then
      (readFrom (.bracket []) rest).map (.key (String.ofList read.reverse) :: ·)
    else if c = ']' then .error .bracketUnbalanced
    else readFrom (.name (c :: read)) rest
  | .point, [] => .error .trailingPoint
  | .point, c :: rest =>
    if c = '.' then .error .emptySegment
    else if c = '[' then readFrom (.bracket []) rest
    else if c = ']' then .error .bracketUnbalanced
    else readFrom (.name [c]) rest
  | .bracket _, [] => .error .indexUnterminated
  | .bracket digits, c :: rest =>
    if c = ']' then
      match indexOfDigits? digits.reverse with
      | some position => (readFrom .index rest).map (.index position :: ·)
      | none => .error .indexNotNumeral
    else if c.isDigit then readFrom (.bracket (c :: digits)) rest
    else .error .indexNotNumeral
  | .index, [] => .ok []
  | .index, c :: rest =>
    if c = '.' then readFrom .point rest
    else if c = '[' then readFrom (.bracket []) rest
    else .error .indexNotDelimited

def parse (text : String) : Except PathFault FieldPath :=
  if Text.isAllBlank text then .error .blank
  else (readFrom .start text.toList).map FieldPath.mk

end FieldPath

end DeclarativeForm
