import DeclarativeForm.Text.LineBreak.Class

/-!
Where a text may be broken into lines, by the rules of Unicode's line breaking algorithm. Whether a
break is allowed before a character depends on its class and on a few facts about the text before
it, which are kept while going over the text. Combining marks belong to the character before them.
-/

set_option autoImplicit false

namespace DeclarativeForm.Text

namespace BreakClass

def isHard (self : BreakClass) : Bool :=
  self = paragraphBreak || self = carriageReturn || self = lineFeed || self = nextLine

def isLetter (self : BreakClass) : Bool := self = letter || self = hebrew

def isIdeographic (self : BreakClass) : Bool :=
  self = ideograph || self = reservedPictograph || self = emojiBase || self = emojiModifier

def isHangul (self : BreakClass) : Bool :=
  self = leadingJamo || self = vowelJamo || self = trailingJamo || self = syllableTwo
    || self = syllableThree

def isOpening (self : BreakClass) : Bool := self = opening || self = wideOpening

def isParenthesis (self : BreakClass) : Bool := self = parenthesis || self = wideParenthesis

/-- Characters with no break before them, not even after spaces. -/
def clings (self : BreakClass) : Bool :=
  self = wordJoiner || self = closing || self.isParenthesis || self = exclamation
    || self = separator || self = slash

/-- Pairs with no break between them, even if there are spaces in between. -/
def clingsAcross (last next : BreakClass) : Bool :=
  last.isOpening || (last = quotation && next.isOpening)
    || ((last = closing || last.isParenthesis) && next = nonstarter)
    || (last = breakBoth && next = breakBoth)

/-- Parts of a number and of the signs around it. -/
def staysInNumber (last next : BreakClass) : Bool :=
  match next with
  | .numeric =>
    last = afterNumber || last = beforeNumber || last = hyphen || last = separator
      || last = numeric || last = slash
  | .afterNumber => last = closing || last.isParenthesis || last = numeric
  | .beforeNumber => last = closing || last.isParenthesis || last = numeric
  | .opening => last = afterNumber || last = beforeNumber
  | .wideOpening => last = afterNumber || last = beforeNumber
  | _ => false

/-- Parts of a Hangul syllable, and syllables with the signs of numbers. -/
def staysInSyllable (last next : BreakClass) : Bool :=
  (last = leadingJamo
      && (next = leadingJamo || next = vowelJamo || next = syllableTwo || next = syllableThree))
    || ((last = vowelJamo || last = syllableTwo) && (next = vowelJamo || next = trailingJamo))
    || ((last = trailingJamo || last = syllableThree) && next = trailingJamo)
    || (last.isHangul && next = afterNumber)
    || (last = beforeNumber && next.isHangul)

/-- Letters and digits with what belongs to their word. -/
def staysInWord (last next : BreakClass) : Bool :=
  (last.isLetter && (next.isLetter || next = numeric))
    || (last = numeric && next.isLetter)
    || (last = beforeNumber && next.isIdeographic)
    || (last.isIdeographic && next = afterNumber)
    || ((last = beforeNumber || last = afterNumber) && next.isLetter)
    || (last.isLetter && (next = beforeNumber || next = afterNumber))
    || (last = separator && next.isLetter)
    || ((last.isLetter || last = numeric) && next = opening)
    || (last = parenthesis && (next.isLetter || next = numeric))
    || ((last = emojiBase || last = reservedPictograph) && next = emojiModifier)

/-- Pairs with no break between them when they stand side by side. -/
def joins (last next : BreakClass) : Bool :=
  next = quotation || last = quotation
    || (last ≠ contingent && next ≠ contingent
      && (next = breakAfter || next = hyphen || next = nonstarter || last = breakBefore
        || (last = slash && next = hebrew) || next = inseparable
        || staysInWord last next || staysInNumber last next || staysInSyllable last next))

end BreakClass

/-- What is known of the text before a character. -/
structure BreakContext where
  /-- The class of the last character that is no space; nothing at the start of a line. -/
  last : Option BreakClass
  /-- There are spaces after it. -/
  spaced : Bool
  /-- The last character is a zero width joiner. -/
  joined : Bool
  /-- The last character is a hyphen after a Hebrew letter. -/
  hebrewHyphen : Bool
  /-- An odd number of regional indicators comes last. -/
  unpaired : Bool
deriving Repr

namespace BreakContext

def start : BreakContext := ⟨none, false, false, false, false⟩

/-- Whether a mark would belong to the last character. -/
def takesMarks (context : BreakContext) : Bool :=
  !context.spaced
    && context.last.any fun last => !last.isHard && last ≠ .zeroWidthSpace

/-- Whether the line ends before a character in any case. -/
def endsBefore (context : BreakContext) (next : BreakClass) : Bool :=
  !context.spaced
    && context.last.any fun last => last.isHard && !(last = .carriageReturn && next = .lineFeed)

/-- Whether a break is allowed after `last` and before `next`, neither being a mark, a space or the
end of a line. -/
def allowsAfter (context : BreakContext) (last next : BreakClass) : Bool :=
  if last = .zeroWidthSpace then true
  else if next.clings then false
  else if !context.spaced && (last = .wordJoiner || last = .glue) then false
  else if !context.spaced && next = .glue && last ≠ .breakAfter && last ≠ .hyphen then false
  else if BreakClass.clingsAcross last next then false
  else if context.spaced then true
  else if context.hebrewHyphen && next ≠ .contingent then false
  else if last = .regional && next = .regional then !context.unpaired
  else !BreakClass.joins last next

/-- Whether a break is allowed before a character. -/
def allows (context : BreakContext) (next : BreakClass) : Bool :=
  if context.endsBefore next then true
  else if next.isHard || next = .space || next = .zeroWidthSpace || context.joined then false
  else
    match context.last with
    | none => context.spaced && !next.clings
    | some last => context.allowsAfter last next

/-- The context after a character that is no mark. -/
def push (context : BreakContext) (next : BreakClass) : BreakContext :=
  if next = .space then
    { context with
      last := if context.endsBefore next then none else context.last
      spaced := true
      joined := false }
  else
    { last := some next
      spaced := false
      joined := false
      hebrewHyphen := !context.spaced && context.last = some .hebrew
        && (next = .hyphen || next = .breakAfter)
      unpaired := next = .regional
        && !(context.unpaired && !context.spaced && context.last = some .regional) }

/-- Whether a break is allowed before a character, and the context after it. A mark without a
character to belong to counts as a letter. -/
def advance (context : BreakContext) (next : BreakClass) : Bool × BreakContext :=
  if next = .combining || next = .zeroWidthJoiner then
    let joined : Bool := next = .zeroWidthJoiner
    if context.takesMarks then (false, { context with joined })
    else (context.allows .letter, { context.push .letter with joined })
  else (context.allows next, context.push next)

end BreakContext

/-- Whether a break is allowed before each character of a text that follows a context. -/
def breaksFrom (context : BreakContext) : List Char → List Bool
  | [] => []
  | c :: rest =>
    let (allowed, context) := context.advance (.ofChar c)
    allowed :: breaksFrom context rest

/-- Whether a break is allowed before each character of a text. There is none before the first. -/
def breaksBefore (text : List Char) : List Bool := breaksFrom .start text

end DeclarativeForm.Text
