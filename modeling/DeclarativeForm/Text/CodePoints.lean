/-!
Sets of code points, written as texts of hexadecimal ranges such as `41-5A 61-7A AA`. The ranges of
a set are in ascending order, so membership is a binary search.
-/

set_option autoImplicit false

namespace DeclarativeForm.Text

/-- A set of code points as ascending ranges, both ends included. -/
structure CodePointSet where
  ranges : Array (Nat × Nat)
deriving Inhabited, Repr

namespace CodePointSet

def hexValue (c : Char) : Nat :=
  if c.isDigit then c.toNat - 48 else if 'a' ≤ c then c.toNat - 87 else c.toNat - 55

/-- Reads ranges; `low` is the start of the range being read, if its end is being read, and
`value` the number being read, if there is one. -/
def readRanges (low value : Option Nat) (read : Array (Nat × Nat)) :
    List Char → Array (Nat × Nat)
  | [] => match value with
    | some high => read.push (low.getD high, high)
    | none => read
  | c :: rest =>
    if c = '-' then readRanges value none read rest
    else if c = ' ' then
      match value with
      | some high => readRanges none none (read.push (low.getD high, high)) rest
      | none => readRanges none none read rest
    else readRanges low (some (16 * value.getD 0 + hexValue c)) read rest

/-- The set a text of ranges stands for. -/
def ofText (text : String) : CodePointSet := ⟨readRanges none none #[] text.toList⟩

/-- The set that several texts of ranges stand for, one after the other. -/
def ofTexts (texts : List String) : CodePointSet :=
  ⟨texts.foldl (fun read text => readRanges none none read text.toList) #[]⟩

/-- Looks for a code point among the ranges from `first` up to `past`. -/
def search (ranges : Array (Nat × Nat)) (point : Nat) : Nat → Nat → Nat → Bool
  | 0, _, _ => false
  | steps + 1, first, past =>
    if past ≤ first then false
    else
      let middle := (first + past) / 2
      match ranges[middle]? with
      | none => false
      | some (low, high) =>
        if point < low then search ranges point steps first middle
        else if high < point then search ranges point steps (middle + 1) past
        else true

def contains (set : CodePointSet) (point : Nat) : Bool :=
  search set.ranges point (set.ranges.size.log2 + 2) 0 set.ranges.size

def containsChar (set : CodePointSet) (c : Char) : Bool := set.contains c.toNat

example : (ofText "41-5A 61-7A AA").ranges = #[(0x41, 0x5A), (0x61, 0x7A), (0xAA, 0xAA)] := by
  decide +kernel
example : ((ofText "41-5A 61-7A AA").contains 0xAA, (ofText "41-5A 61-7A AA").contains 0x60)
    = (true, false) := by decide +kernel

end CodePointSet

end DeclarativeForm.Text
