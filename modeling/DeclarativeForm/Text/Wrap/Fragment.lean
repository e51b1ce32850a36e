import DeclarativeForm.Text.Letter
import DeclarativeForm.Text.LineBreak.Opportunity
import DeclarativeForm.Text.Wrap.Escape

/-!
The pieces a line of text is put together from. A text falls apart at its break opportunities;
words with a hyphen between letters or digits fall apart after it, and words that are wider than a
line wherever the line is full. No character is lost: the pieces of a text, one after the other,
are the text.
-/

set_option autoImplicit false

namespace DeclarativeForm.Text

/-- A piece of a text and the number of spaces after it. -/
structure Fragment where
  characters : List Char
  columns : Nat
  spaces : Nat
deriving Repr, Inhabited

namespace Fragment

def text (fragment : Fragment) : List Char :=
  fragment.characters ++ List.replicate fragment.spaces ' '

/-- A piece whose spaces at the end are told apart. -/
def ofText (text : List Char) : Fragment :=
  let characters := (text.reverse.dropWhile (· = ' ')).reverse
  ⟨characters, shownColumns characters, text.length - characters.length⟩

end Fragment

/-- Whether a line may be broken before each shown character. Breaks after hyphens are made apart,
and soft hyphens are not used. -/
def openBreaks (shown : List Char) : List Bool :=
  (breaksBefore shown).zipWith (fun allowed before => allowed && before ≠ '-' && before ≠ '\xAD')
    (' ' :: shown)

/-- Leaves out the last break of a list. -/
def withoutLast (breaks : List Bool) : List Bool :=
  let after := breaks.reverse.dropWhile (! ·)
  (List.replicate (breaks.length - after.length) false
    ++ (match after with
      | [] => []
      | _ :: rest => false :: rest)).reverse

/-- The breaks that are used in a text of shown characters. The break at its end is left out. Where
the text ends in a hyphen there is none, and the last one before is left out in its place. -/
def usedBreaks (shown : List Char) : List Bool :=
  match shown.getLast? with
  | some last => if last = '-' || last = '\xAD' then withoutLast (openBreaks shown)
    else openBreaks shown
  | none => []

/-- Cuts a text before every character with a break. A break before a shown character comes before
the sequences that are not shown in front of it. `current` and `sequence` hold what was read since
the last break, in reverse: up to the last shown character, and after it. -/
def cut (current sequence : List Char) : List (Char × Visibility) → List Bool → List (List Char)
  | [], _ => [(sequence ++ current).reverse]
  | (c, visibility) :: rest, breaks =>
    match visibility, breaks with
    | .shown, true :: later =>
      current.reverse :: cut (c :: sequence) [] rest later
    | .shown, _ => cut (c :: (sequence ++ current)) [] rest breaks.tail
    | _, _ => cut current (c :: sequence) rest breaks

/-- The words of a text with the spaces after them. -/
def textWords (text : List Char) : List Fragment :=
  (cut [] [] (marked .shown text) (usedBreaks (shownCharacters text))).map .ofText

/-- Cuts a word after every hyphen between two letters or digits. `last` is the character before,
and `current` holds what was read since the last cut, in reverse. -/
def cutHyphens (last : Option Char) (current : List Char) : List Char → List (List Char)
  | [] => [current.reverse]
  | c :: rest =>
    if c = '-' && last.any isAlphanumeric && rest.head?.any isAlphanumeric then
      (c :: current).reverse :: cutHyphens (some c) [] rest
    else cutHyphens (some c) (c :: current) rest

/-- Gives the spaces of a fragment to the last of its pieces. -/
def withSpaces (spaces : Nat) : List Fragment → List Fragment
  | [] => []
  | [last] => [{ last with spaces }]
  | first :: rest => first :: withSpaces spaces rest

/-- The parts of a word between its hyphens. -/
def Fragment.hyphenated (word : Fragment) : List Fragment :=
  withSpaces word.spaces
    ((cutHyphens none [] word.characters).map fun part => ⟨part, shownColumns part, 0⟩)

/-- Cuts a word wherever a line is full. `current` holds what was read since the last cut, in
reverse, and `taken` counts its columns. -/
def cutColumns (limit : Nat) (current : List Char) (taken : Nat) :
    List (Char × Visibility) → List Fragment
  | [] => if current.isEmpty then [] else [⟨current.reverse, taken, 0⟩]
  | (c, visibility) :: rest =>
    if visibility = .shown then
      if 0 < taken && limit < taken + Text.columns c then
        ⟨current.reverse, taken, 0⟩ :: cutColumns limit [c] (Text.columns c) rest
      else cutColumns limit (c :: current) (taken + Text.columns c) rest
    else cutColumns limit (c :: current) taken rest

/-- A word that is wider than a line in parts that are not. -/
def Fragment.broken (word : Fragment) (limit : Nat) : List Fragment :=
  if limit < word.columns then
    withSpaces word.spaces (cutColumns limit [] 0 (marked .shown word.characters))
  else [word]

/-- The pieces of a line of text for lines of some width. -/
def fragments (text : List Char) (limit : Nat) : List Fragment :=
  ((textWords text).flatMap Fragment.hyphenated).flatMap fun word => word.broken limit

end DeclarativeForm.Text
