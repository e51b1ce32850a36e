import DeclarativeForm.Text.Property
import DeclarativeForm.Text.Width.ColumnSet

/-!
The width of texts in columns of a terminal. A single character takes none, one, two or three
columns. A text as a whole takes the columns of its characters, except that sequences which stand
for one emoji and letters that merge into one are as wide as what they stand for.
-/

set_option autoImplicit false

namespace DeclarativeForm.Text

def isControl (c : Char) : Bool := c.toNat < 0x20 || (0x7F ≤ c.toNat && c.toNat < 0xA0)

/-- The columns a character takes on its own. Controls take none. -/
def columns (c : Char) : Nat :=
  if isControl c then 0
  else if c.toNat < 0x7F then 1
  else if c.toNat = 0x17D8 then 3
  else if ColumnSet.none.containsChar c then 0
  else if ColumnSet.two.containsChar c then 2
  else 1

/-- What the rest of a text begins with, as far as the width of the character before it depends on
it. -/
inductive Following
  | nothing
  | character (c : Char)
  /-- A zero width joiner and a character. -/
  | joined (c : Char)
  | emoji
  /-- A zero width joiner and an emoji. -/
  | joinedEmoji
  /-- An emoji modifier. -/
  | modifier
  /-- The selector of emoji; `joins` says that a joined emoji comes after it. -/
  | emojiSelector (joins : Bool)
  /-- The selector of texts. -/
  | textSelector
  /-- The end of a sequence of Buginese letters that merge. -/
  | bugineseEnd
  /-- A Tifinagh letter after the Tifinagh joiner. -/
  | tifinaghEnd
deriving DecidableEq, Repr

def isTifinaghLetter (c : Char) : Bool :=
  (0x2D31 ≤ c.toNat && c.toNat ≤ 0x2D65) || c.toNat = 0x2D6F

/-- The Khmer letters that can be written below another one. -/
def isKhmerSubscript (c : Char) : Bool :=
  (CodePointSet.ofText
    "1780-1782 1784-1787 1789-178C 178E-1793 1795-1798 179B-179D 17A0 17A2 17A7 17AB-17AC 17AF"
    ).containsChar c

/-- Whether a character followed by the selector of emoji is one. -/
def isEmojiBase (c : Char) : Bool :=
  Property.emoji.containsChar c && !Property.regionalIndicator.containsChar c

namespace Following

def ofChar (c : Char) : Following :=
  if Property.emojiModifier.containsChar c then modifier
  else if Property.emojiPresentation.containsChar c && !Property.regionalIndicator.containsChar c
  then emoji
  else character c

/-- Whether a joined emoji is next, possibly after a selector. -/
def joinsEmoji : Following → Bool
  | joinedEmoji => true
  | emojiSelector joins => joins
  | _ => false

end Following

/-- Letters that merge with what follows: the width of all of it, given that of the rest. -/
def mergedWidth? (c : Char) (rest : Nat) : Following → Option (Nat × Following)
  | .character next =>
    if c = '\r' && next = '\n' then some (rest, .nothing)
    else if ColumnSet.alef.containsChar next && ColumnSet.lam.containsChar c then
      some (rest, .nothing)
    else if ColumnSet.alef.containsChar next && ColumnSet.transparent.containsChar c
        && columns c = 0 then some (rest, .character next)
    else if c.toNat = 0x17D2 && isKhmerSubscript next then some (rest - 1, .nothing)
    else if c.toNat = 0x2D7F && isTifinaghLetter next then some (rest + 1, .tifinaghEnd)
    else if 0xA4F8 ≤ c.toNat && c.toNat ≤ 0xA4FB && (next.toNat = 0xA4FC || next.toNat = 0xA4FD)
    then some (rest, .nothing)
    else none
  | .joined next =>
    if c.toNat = 0x5D0 && next.toNat = 0x5DC then some (rest, .nothing)
    else if c.toNat = 0x10C32 && next.toNat = 0x10C03 then some (rest, .nothing)
    else if c.toNat = 0x1A17 && next.toNat = 0x1A10 then some (rest, .bugineseEnd)
    else if isTifinaghLetter c && isTifinaghLetter next then some (rest, .nothing)
    else none
  | .bugineseEnd => if c.toNat = 0x1A15 then some (rest, .nothing) else none
  | .tifinaghEnd => if isTifinaghLetter c then some (rest - 1, .nothing) else none
  | _ => none

/-- Emoji sequences: the width of all of it, given that of the rest. A sequence has the width that
its last emoji has already been given. -/
def emojiWidth? (c : Char) (rest : Nat) : Following → Option (Nat × Following)
  | .emojiSelector joins =>
    if isEmojiBase c then some (if joins then rest else rest + 2, .emoji) else none
  | .textSelector => if ColumnSet.textual.containsChar c then some (rest + 1, .nothing) else none
  | .modifier =>
    if Property.emojiModifierBase.containsChar c then some (rest, .emoji) else none
  | .joinedEmoji =>
    match Following.ofChar c with
    | .emoji => some (rest, .emoji)
    | .modifier => some (rest, .modifier)
    | _ => none
  | _ => none

/-- The width of a text and what it begins with, given both for the text after its first
character. -/
def widthStep (c : Char) : Nat × Following → Nat × Following
  | (rest, following) =>
    if c.toNat = 0xFE0F then (rest, .emojiSelector following.joinsEmoji)
    else if c.toNat = 0xFE0E then (rest, .textSelector)
    else if c.toNat = 0x200D then
      match following with
      | .emoji => (rest, .joinedEmoji)
      | .character next => (rest, .joined next)
      | _ => (rest, .nothing)
    else
      match (emojiWidth? c rest following).or (mergedWidth? c rest following) with
      | some merged => merged
      | none => (rest + (if isControl c then 1 else columns c), .ofChar c)

def width (text : String) : Nat := (text.toList.foldr widthStep (0, .nothing)).1

end DeclarativeForm.Text
