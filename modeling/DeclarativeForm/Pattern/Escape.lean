import DeclarativeForm.Pattern.CharSet

/-!
Escapes that mean the same inside and outside of a bracketed class: control characters, characters
by their number, kinds of characters, and marks that stand for themselves. A reader takes the
characters after the backslash and gives back those it leaves.
-/

set_option autoImplicit false

namespace DeclarativeForm.Pattern

inductive Escape
  | char (c : Char)
  | kind (set : CharSet)
  | hexDigit (negated : Bool)
deriving Repr

namespace Escape

def hexValue? (c : Char) : Option Nat :=
  if c.isDigit then some (c.toNat - 48)
  else if 'a' ≤ c && c ≤ 'f' then some (c.toNat - 87)
  else if 'A' ≤ c && c ≤ 'F' then some (c.toNat - 55)
  else none

def hexNumber? (digits : List Char) : Option Nat :=
  (digits.mapM hexValue?).map (List.foldl (fun value digit => 16 * value + digit) 0)

def charOfNumber? (number : Nat) : Option Char :=
  if number.isValidChar then some (Char.ofNat number) else none

/-- Reads a character's number: so many digits, or up to eight between braces. -/
def readNumbered (count : Nat) (text : List Char) : Option (Escape × List Char) :=
  let finish (digits rest : List Char) : Option (Escape × List Char) := do
    let c ← charOfNumber? (← hexNumber? digits)
    pure (char c, rest)
  if (text.take count).length = count && (text.take count).all fun c => (hexValue? c).isSome then
    finish (text.take count) (text.drop count)
  else match text with
    | '\x7b' :: rest =>
      let digits := rest.takeWhile fun c => (hexValue? c).isSome
      match rest.drop digits.length with
      | '\x7d' :: rest =>
        if digits.isEmpty || decide (8 < digits.length) then none else finish digits rest
      | _ => none
    | _ => none

/-- Reads the name of a property: one character, or a text between braces. -/
def readProperty (fold negated : Bool) (text : List Char) : Option (Escape × List Char) :=
  let finish (name rest : List Char) : Option (Escape × List Char) := do
    let (different, set) ← CharSet.described? name
    pure (kind (.negatedIf (negated != different) (.foldedIf fold set)), rest)
  match text with
  | [] => none
  | '\x7b' :: rest =>
    let name := rest.takeWhile (· ≠ '\x7d')
    match rest.drop name.length with
    | _ :: rest => finish name rest
    | [] => none
  | c :: rest => finish [c] rest

/-- The control characters with a letter of their own. -/
def control? (c : Char) : Option Char :=
  ([('a', '\x07'), ('e', '\x1b'), ('f', '\x0c'), ('n', '\n'), ('r', '\r'), ('t', '\t'),
    ('v', '\x0b')] : List (Char × Char)).lookup c

/-- The kinds of characters with a letter of their own; the capital letter stands for the
others. -/
def kind? (c : Char) : Option CharSet :=
  ([('d', .digits), ('D', .complement .digits), ('s', .blanks), ('S', .complement .blanks),
    ('w', .wordCharacters), ('W', .complement .wordCharacters)] :
    List (Char × CharSet)).lookup c

/-- Whether a character stands for itself after a backslash. -/
def isMark (c : Char) : Bool := ' ' ≤ c && c ≤ '~' && !c.isAlphanum

def read (fold : Bool) : List Char → Option (Escape × List Char)
  | [] => none
  | c :: rest =>
    if c = 'h' then some (hexDigit false, rest)
    else if c = 'H' then some (hexDigit true, rest)
    else if c = 'x' then readNumbered 2 rest
    else if c = 'u' then readNumbered 4 rest
    else if c = 'U' then readNumbered 8 rest
    else if c = 'p' || c = 'P' then readProperty fold (c = 'P') rest
    else if isMark c then some (char c, rest)
    else match control? c, kind? c with
      | some control, _ => some (char control, rest)
      | none, some set => some (kind set, rest)
      | none, none => none

example : (hexNumber? ['4', 'f'], hexNumber? ['g']) = (some 79, none) := by decide +kernel
example : isMark '-' ∧ ¬ isMark 'q' := by decide +kernel

end Escape

end DeclarativeForm.Pattern
