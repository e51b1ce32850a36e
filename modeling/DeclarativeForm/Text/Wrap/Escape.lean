import DeclarativeForm.Text.Width.Basic

/-!
Texts with control sequences of terminals. A sequence starts with the escape character and is not
shown; with a bracket it runs to its final byte, as a command to its terminator, and otherwise it
is one character long.
-/

set_option autoImplicit false

namespace DeclarativeForm.Text

/-- Where in a control sequence a text is. -/
inductive EscapeState
  | shown
  /-- After the escape character. -/
  | escape
  /-- In a control sequence up to its final byte. -/
  | sequence
  /-- In a command; `last` is the last character read. -/
  | command (last : Char)
deriving DecidableEq, Repr

/-- A character of a text: shown, the start of a sequence, or inside one. -/
inductive Visibility
  | shown
  | opens
  | hidden
deriving DecidableEq, Repr

/-- How a character appears, and the state after it. -/
def EscapeState.advance (state : EscapeState) (c : Char) : Visibility × EscapeState :=
  match state with
  | shown => if c = '\x1b' then (.opens, escape) else (.shown, shown)
  | escape =>
    if c = '[' then (.hidden, sequence)
    else if c = ']' then (.hidden, command c)
    else (.hidden, shown)
  | sequence => (.hidden, if '\x40' ≤ c ∧ c ≤ '\x7e' then shown else sequence)
  | command last =>
    (.hidden, if c = '\x07' ∨ (c = '\\' ∧ last = '\x1b') then shown else command c)

/-- The characters of a text with the way they appear. -/
def marked (state : EscapeState) : List Char → List (Char × Visibility)
  | [] => []
  | c :: rest =>
    let (visibility, state) := state.advance c
    (c, visibility) :: marked state rest

def shownCharacters (text : List Char) : List Char :=
  (marked .shown text).filterMap fun (c, visibility) =>
    if visibility = .shown then some c else none

def shownColumns (text : List Char) : Nat :=
  (shownCharacters text).foldl (fun total c => total + columns c) 0

end DeclarativeForm.Text
