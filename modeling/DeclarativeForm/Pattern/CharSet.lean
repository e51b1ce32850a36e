import DeclarativeForm.Text.CaseFold
import DeclarativeForm.Text.Letter
import DeclarativeForm.Text.Script

/-!
The sets of characters a pattern speaks of, put together from ranges and properties.
-/

set_option autoImplicit false

namespace DeclarativeForm.Pattern

inductive CharSet
  | range (low high : Nat)
  | points (set : Text.CodePointSet)
  | union (first second : CharSet)
  | intersection (first second : CharSet)
  | difference (first second : CharSet)
  | symmetricDifference (first second : CharSet)
  | complement (set : CharSet)
  /-- The characters that differ only in case from one of the set. -/
  | folded (set : CharSet)
deriving Repr, Inhabited

namespace CharSet

def contains : CharSet → Char → Bool
  | range low high, c => low ≤ c.toNat && c.toNat ≤ high
  | points set, c => set.containsChar c
  | union first second, c => first.contains c || second.contains c
  | intersection first second, c => first.contains c && second.contains c
  | difference first second, c => first.contains c && !second.contains c
  | symmetricDifference first second, c => first.contains c != second.contains c
  | complement set, c => !set.contains c
  | folded set, c => (Text.CaseFold.variants c).any set.contains

/-- The room that a set takes in a program, by the number of its ranges. -/
def room : CharSet → Nat
  | range _ _ => 1
  | points set => set.ranges.size
  | union first second | intersection first second | difference first second
  | symmetricDifference first second => max first.room second.room
  | complement set => set.room + 10
  | folded set => 2 * set.room

def none : CharSet := range 1 0

def all : CharSet := range 0 0x10FFFF

def single (c : Char) : CharSet := range c.toNat c.toNat

def withinLine : CharSet := complement (single '\n')

def foldedIf (fold : Bool) (set : CharSet) : CharSet := if fold then folded set else set

def negatedIf (negate : Bool) (set : CharSet) : CharSet := if negate then complement set else set

def ofPoints (sets : List Text.CodePointSet) : CharSet :=
  sets.foldr (fun set rest => union (points set) rest) none

def digits : CharSet := points Text.Category.decimalNumber

def blanks : CharSet := points Text.Property.whiteSpace

def wordCharacters : CharSet :=
  ofPoints
    [Text.Property.alphabetic, Text.Category.nonspacingMark, Text.Category.spacingMark,
      Text.Category.enclosingMark, Text.Category.decimalNumber,
      Text.Category.connectorPunctuation, Text.Property.joinControl]

/-- Ranges written as a text such as `09AZ`: pairs of ends. -/
def ofPairs : List Char → CharSet
  | low :: high :: rest => union (range low.toNat high.toNat) (ofPairs rest)
  | _ => none

/-- The sets that a class may name between `[:` and `:]`. -/
def ascii? (name : String) : Option CharSet :=
  (["alnum", "alpha", "ascii", "blank", "cntrl", "digit", "graph", "lower", "print", "punct",
      "space", "upper", "word", "xdigit"].zip
    ["09AZaz", "AZaz", "\x00\x7f", "\t\t  ", "\x00\x1f\x7f\x7f", "09", "!~", "az", " ~",
      "!/:@[`\x7b~", "\t\t\n\n\x0b\x0b\x0c\x0c\r\r  ", "AZ", "09AZ__az", "09AFaf"]).lookup name
    |>.map fun pairs => ofPairs pairs.toList

/-- A name without the marks that do not count: case, blanks, dashes, underscores, a leading
`is`. -/
def looseName (name : String) : List Char :=
  let letters := (name.toList.filter fun c => c ≠ ' ' && c ≠ '-' && c ≠ '_' && c.toNat < 0x80).map
    Char.toLower
  match name.toList.map Char.toLower, letters with
  | 'i' :: 's' :: _, 'i' :: 's' :: rest => if rest = ['c'] then letters else rest
  | _, _ => letters

/-- The set of a name in a table of short and long names. -/
def lookup? {α : Type} (table : List (String × String × α)) (name : List Char) : Option α :=
  (table.find? fun (short, long, _) => looseName short = name || looseName long = name).map
    fun entry => entry.2.2

def property? (name : List Char) : Option CharSet :=
  if name = "space".toList then some blanks
  else (lookup? Text.Property.named name).map points

def category? (name : List Char) : Option CharSet :=
  let shortName : List Char :=
    if name = "digit".toList then "nd".toList
    else if name = "cntrl".toList then "cc".toList
    else if name = "punct".toList then "p".toList
    else if name = "combiningmark".toList then "m".toList
    else name
  if name = "any".toList then some all
  else if name = "assigned".toList then some (complement (points Text.Category.unassigned))
  else if name = "ascii".toList then some (range 0 0x7F)
  else
    ((lookup? Text.Category.named shortName).map points).or
      ((lookup? Text.Category.groups shortName).map ofPoints)

def script? (name : List Char) : Option CharSet :=
  let shortName : List Char :=
    if name = "qaai".toList then "zinh".toList
    else if name = "qaac".toList then "copt".toList
    else name
  (lookup? Text.Script.named shortName).map points

/-- The set of a name that may be that of a property, a category or a script. Three short names of
categories are also those of other properties, and stand for the categories. -/
def named? (name : String) : Option CharSet :=
  let loose := looseName name
  let property : Option CharSet :=
    if ["cf", "sc", "lc"].contains (String.ofList loose) then Option.none else property? loose
  (property.or (category? loose)).or (script? loose)

/-- The set of a value of a property with values. -/
def valued? (property value : String) : Option CharSet :=
  let loose := looseName property
  if loose = "gc".toList || loose = "generalcategory".toList then category? (looseName value)
  else if loose = "sc".toList || loose = "script".toList || loose = "scx".toList
      || loose = "scriptextensions".toList then script? (looseName value)
  else Option.none

/-- The part of a text before the first occurrence of a mark, and the part after it. -/
def splitAtMark (mark : List Char) : List Char → Option (List Char × List Char)
  | [] => Option.none
  | c :: rest =>
    if mark.isPrefixOf (c :: rest) then some ([], (c :: rest).drop mark.length)
    else (splitAtMark mark rest).map fun (before, after) => (c :: before, after)

/-- The set described between the braces of a property, and whether its complement is meant: a name,
or a property and its value. -/
def described? (text : List Char) : Option (Bool × CharSet) :=
  let valued (negated : Bool) (parts : List Char × List Char) : Option (Bool × CharSet) :=
    (valued? (String.ofList parts.1) (String.ofList parts.2)).map fun set => (negated, set)
  match splitAtMark ['!', '='] text with
  | some parts => valued true parts
  | Option.none =>
    match (splitAtMark [':'] text).or (splitAtMark ['='] text) with
    | some parts => valued false parts
    | Option.none => (named? (String.ofList text)).map fun set => (false, set)

end CharSet

end DeclarativeForm.Pattern
