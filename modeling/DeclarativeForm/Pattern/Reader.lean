import DeclarativeForm.Pattern.Bracket
import DeclarativeForm.Pattern.Syntax
import DeclarativeForm.Text.Letter

/-!
Reading the text of a pattern. The reader descends from choices to branches, pieces and atoms; a
bound on the steps decreases with every call and is taken from the length of the text, which no
reading exceeds.
-/

set_option autoImplicit false

namespace DeclarativeForm.Pattern

/-- How the parts that follow are to be read. -/
structure Flags where
  /-- Case does not count. -/
  fold : Bool := false
  /-- The signs for start and end stand for those of lines. -/
  lines : Bool := false
  /-- A point stands for the line feed too. -/
  wholeText : Bool := false
  /-- Repetitions are lazy unless marked. -/
  lazy : Bool := false
  /-- Blanks and comments do not count. -/
  spaced : Bool := false
deriving DecidableEq, Repr

/-- What the reader knows: the text to read, the flags, the number of groups opened, their names,
the groups whose text is asked for again, and whether one was asked for by number. -/
structure Reading where
  rest : List Char
  flags : Flags
  groups : Nat
  names : List (String × Nat)
  referenced : List Nat
  numbered : Bool
  /-- Groups asked for by number are below this limit. -/
  groupLimit : Nat

/-- A reader fails if the text has no meaning. -/
abbrev Reader := StateT Reading Option

namespace Reader

def depthLimit : Nat := 64

def peek : Reader (Option Char) := return (← get).rest.head?

def setRest (rest : List Char) : Reader Unit := modify fun reading => { reading with rest }

def accept (text : String) : Reader Bool := do
  let reading ← get
  if text.toList.isPrefixOf reading.rest then
    setRest (reading.rest.drop text.length)
    pure true
  else pure false

def acceptWhile (kind : Char → Bool) : Reader (List Char) := do
  let accepted := (← get).rest.takeWhile kind
  setRest ((← get).rest.drop accepted.length)
  pure accepted

def pastComment : List Char → Option (List Char)
  | [] => none
  | ')' :: rest => some rest
  | ['\\'] => none
  | '\\' :: _ :: rest => pastComment rest
  | _ :: rest => pastComment rest

/-- What follows blanks and comments. The number bounds the steps. -/
def pastBlanks (spaced : Bool) : Nat → List Char → Option (List Char)
  | 0, _ => none
  | bound + 1, text =>
    match text with
    | '(' :: '?' :: '#' :: rest => (pastComment rest).bind (pastBlanks spaced bound)
    | c :: rest =>
      if spaced && c = '#' then pastBlanks spaced bound ((rest.dropWhile (· ≠ '\n')).drop 1)
      else if spaced && [' ', '\r', '\n', '\t'].contains c then pastBlanks spaced bound rest
      else some text
    | [] => some text

def skipBlanks : Reader Unit := do
  let reading ← get
  setRest (← liftM (pastBlanks reading.flags.spaced (reading.rest.length + 1) reading.rest))

def close : Reader Unit := do
  skipBlanks
  guard (← accept ")")

def decimal? (digits : List Char) : Option Nat :=
  let value := digits.foldl (fun value digit => 10 * value + (digit.toNat - 48)) 0
  if digits.isEmpty || decide (Nat.pow 2 64 ≤ value) then none else some value

def readDecimal? : Reader (Option Nat) := do
  let digits := (← get).rest.takeWhile Char.isDigit
  match decimal? digits with
  | some value =>
    setRest ((← get).rest.drop digits.length)
    pure (some value)
  | none => pure none

/-- The counts between the braces of a repetition. -/
def readCounts : Reader (Nat × Option Nat) := do
  guard (← accept "\x7b")
  skipBlanks
  let least ← match ← peek with
    | some ',' => pure 0
    | _ => do
      let some least ← readDecimal? | failure
      pure least
  skipBlanks
  let most ← if ← accept "," then do
      skipBlanks
      readDecimal?
    else pure (some least)
  skipBlanks
  guard (← accept "\x7d")
  pure (least, most)

/-- How often the piece before is to be repeated, if there is a sign of it. Braces that hold no
counts are none. -/
def readRepetition? : Reader (Option (Nat × Option Nat)) := do
  let reading ← get
  if ← accept "?" then pure (some (0, some 1))
  else if ← accept "*" then pure (some (0, none))
  else if ← accept "+" then pure (some (1, none))
  else match readCounts.run reading with
    | some (counts, reading) =>
      set reading
      pure (some counts)
    | none => pure none

def reference (group : Nat) : Reader Expr := do
  guard (group ≤ (← get).groups)
  pure (.backreference group)

/-- Asks for a group again that has to match in every way it can. -/
def revisedReference (group : Nat) : Reader Expr := do
  modify fun reading => { reading with referenced := group :: reading.referenced }
  reference group

def readNumber : Reader Expr := do
  let some group ← readDecimal? | failure
  guard (group < (← get).groupLimit)
  modify fun reading => { reading with numbered := true }
  revisedReference group

def readName (closing : String) : Reader String := do
  let name ← acceptWhile fun c => Text.isAlphanumeric c || c = '_'
  guard (!name.isEmpty)
  guard (← accept closing)
  pure (String.ofList name)

def groupOfName (name : String) : Reader Nat := do
  match (← get).names.lookup name with
  | some group => pure group
  | none =>
    guard (name.toList.all Char.isDigit)
    liftM (decimal? name.toList)

/-- Reads a group's name or number, or how far the group is back, up to a text that closes it. -/
def readReference (closing : String) : Reader Expr := do
  if ← accept "-" then
    let name ← readName closing
    guard (name.toList.all Char.isDigit)
    let some distance := decimal? name.toList | failure
    let opened := (← get).groups
    let next := if distance = 0 then 0 else opened + 1
    guard (distance ≤ next)
    revisedReference (next - distance)
  else revisedReference (← groupOfName (← readName closing))

/-- Reads an escape outside of classes, past its backslash. -/
def readEscape : Reader Expr := do
  match ← peek with
  | none => failure
  | some c =>
    if c.isDigit then readNumber
    else if ← accept "k'" then readReference "'"
    else if ← accept "k<" then readReference ">"
    else if ← accept "A" then pure (.assertion .textStart)
    else if ← accept "z" then pure (.assertion .textEnd)
    else if ← accept "Z" then pure .lastEnd
    else if ← accept "b\x7bstart\x7d" then pure (.assertion .wordStart)
    else if ← accept "b\x7bend\x7d" then pure (.assertion .wordEnd)
    else if ← accept "b" then
      guard ((← peek) ≠ some '\x7b')
      pure (.assertion .wordBoundary)
    else if ← accept "B" then
      guard ((← peek) ≠ some '\x7b')
      pure (.assertion .notWordBoundary)
    else if ← accept "<" then pure (.assertion .wordStart)
    else if ← accept ">" then pure (.assertion .wordEnd)
    else if ← accept "K" then pure .keep
    else if ← accept "G" then pure .searchStart
    else
      let fold := (← get).flags.fold
      let (escape, rest) ← liftM (Escape.read fold (← get).rest)
      setRest rest
      match escape with
      | .char c => pure (.literal fold c)
      | .kind set => pure (.char set)
      | .hexDigit negated => pure (.char (.negatedIf negated (.ofPairs "09AFaf".toList)))

/-- Passes the signs of flags. The last character passed tells whether a sign stands on its own. -/
def readFlags : Nat → Bool → Char → Reader Bool
  | 0, _, _ => failure
  | bound + 1, negated, last => do
    let before := (← get).rest.length
    skipBlanks
    let last := if (← get).rest.length = before then last else ' '
    let set (change : Flags → Bool → Flags) : Reader Unit :=
      modify fun reading => { reading with flags := change reading.flags (!negated) }
    if ← accept ")" then
      guard (last ≠ '?' && last ≠ '-')
      pure false
    else if ← accept ":" then
      guard (last ≠ '-')
      pure true
    else if ← accept "-" then
      guard (!negated)
      readFlags bound true '-'
    else do
      if ← accept "i" then set fun flags fold => { flags with fold }
      else if ← accept "m" then set fun flags lines => { flags with lines }
      else if ← accept "s" then set fun flags wholeText => { flags with wholeText }
      else if ← accept "U" then set fun flags lazy => { flags with lazy }
      else if ← accept "x" then set fun flags spaced => { flags with spaced }
      else guard ((← accept "u") && !negated)
      readFlags bound negated ' '

/-- Opens a group, with a name or without. -/
def openGroup (name : Option String) : Reader Nat := do
  modify fun reading =>
    let group := reading.groups + 1
    { reading with
      groups := group
      names := match name with
        | some name => (name, group) :: reading.names
        | none => reading.names }
  return (← get).groups

def isRepeatable : Expr → Bool
  | .look _ _ _ | .empty | .assertion _ => false
  | _ => true

def isNothing : Expr → Bool
  | .empty => true
  | _ => false

/-- The part made of parts in a row. -/
def ofPieces : List Expr → Expr
  | [] => .empty
  | [part] => part
  | parts => .concat parts

/-- The parts of a choice for a condition that holds and for one that does not. -/
def splitChoice : Expr → Expr × Expr
  | .alternatives (first :: rest) =>
    match rest with
    | [second] => (first, second)
    | _ => (first, .alternatives rest)
  | part => (part, .empty)

/-- The part that tests a condition: a group asked for as a condition need only have matched. -/
def conditionOf : Expr → Expr
  | .backreference group => .groupMatched group
  | part => part

mutual

def readChoice : Nat → Nat → Reader Expr
  | 0, _ => failure
  | bound + 1, depth => do
    let first ← readBranch bound depth
    let others ← readBranches bound depth
    if others.isEmpty then
      let reading ← get
      guard (!(reading.numbered && !reading.names.isEmpty))
      pure first
    else pure (.alternatives (first :: others))
termination_by structural bound => bound

def readBranches : Nat → Nat → Reader (List Expr)
  | 0, _ => failure
  | bound + 1, depth => do
    skipBlanks
    if ← accept "|" then
      let part ← readBranch bound depth
      return part :: (← readBranches bound depth)
    else pure []
termination_by structural bound => bound

def readBranch : Nat → Nat → Reader Expr
  | 0, _ => failure
  | bound + 1, depth => return ofPieces (← readPieces bound depth)
termination_by structural bound => bound

/-- Reads pieces until one takes up nothing of the text. -/
def readPieces : Nat → Nat → Reader (List Expr)
  | 0, _ => failure
  | bound + 1, depth => do
    let before := (← get).rest.length
    let part ← readPiece bound depth
    if (← get).rest.length = before then pure []
    else
      let others ← readPieces bound depth
      pure (if isNothing part then others else part :: others)
termination_by structural bound => bound

/-- Reads an atom and how often it is repeated. -/
def readPiece : Nat → Nat → Reader Expr
  | 0, _ => failure
  | bound + 1, depth => do
    let part ← readAtom bound depth
    skipBlanks
    match ← readRepetition? with
    | none => pure part
    | some (least, most) =>
      guard (isRepeatable part)
      skipBlanks
      let marked ← accept "?"
      let part := Expr.repetition part least most (marked == (← get).flags.lazy)
      if ← accept "+" then pure (.atomic part) else pure part
termination_by structural bound => bound

/-- Reads one atom; before a sign that starts none, nothing is read. -/
def readAtom : Nat → Nat → Reader Expr
  | 0, _ => failure
  | bound + 1, depth => do
    skipBlanks
    let flags := (← get).flags
    match (← get).rest with
    | [] => pure .empty
    | c :: rest =>
      if ['+', '*', '?', '|', ')'].contains c then pure .empty
      else do
        setRest rest
        if c = '.' then pure (.char (if flags.wholeText then .all else .withinLine))
        else if c = '^' then
          pure (.assertion (if flags.lines then .lineStart else .textStart))
        else if c = '$' then pure (.assertion (if flags.lines then .lineEnd else .textEnd))
        else if c = '(' then readGroup bound (depth + 1)
        else if c = '\\' then readEscape
        else if c = '[' then
          let (set, rest) ← liftM (Bracket.read flags.fold rest)
          setRest rest
          pure (.char set)
        else pure (.literal flags.fold c)
termination_by structural bound => bound

def readGroup : Nat → Nat → Reader Expr
  | 0, _ => failure
  | bound + 1, depth => do
    guard (decide (depth < depthLimit))
    skipBlanks
    if ← accept "?=" then return .look false false (← readBody bound depth)
    else if ← accept "?!" then return .look false true (← readBody bound depth)
    else if ← accept "?<=" then return .look true false (← readBody bound depth)
    else if ← accept "?<!" then return .look true true (← readBody bound depth)
    else if (← accept "?<") || (← accept "?P<") then
      let group ← openGroup (some (← readName ">"))
      return .group group (← readBody bound depth)
    else if ← accept "?P=" then reference (← groupOfName (← readName ")"))
    else if ← accept "?>" then return .atomic (← readBody bound depth)
    else if ← accept "?(" then readConditional bound depth
    else if ← accept "?" then
      let flags := (← get).flags
      if ← readFlags bound false '?' then
        let part ← readChoice bound depth
        guard (← accept ")")
        modify fun reading => { reading with flags }
        pure part
      else pure .empty
    else
      let group ← openGroup none
      return .group group (← readBody bound depth)
termination_by structural bound => bound

def readBody : Nat → Nat → Reader Expr
  | 0, _ => failure
  | bound + 1, depth => do
    let part ← readChoice bound depth
    close
    pure part
termination_by structural bound => bound

/-- Reads a condition past its bracket, and the branches that depend on it. -/
def readConditional : Nat → Nat → Reader Expr
  | 0, _ => failure
  | bound + 1, depth => do
    let condition ←
      if (← peek).any Char.isDigit then readNumber
      else if ← accept "'" then readReference "'"
      else if ← accept "<" then readReference ">"
      else readChoice bound depth
    close
    let before := (← get).rest.length
    let branches ← readChoice bound depth
    if (← get).rest.length = before then
      close
      match condition with
      | .backreference group => pure (.groupMatched group)
      | _ => failure
    else
      let (yes, no) := splitChoice branches
      close
      if isNothing yes && isNothing no then pure (conditionOf condition)
      else pure (.conditional (conditionOf condition) yes no)
termination_by structural bound => bound

end

end Reader

/-- A pattern as read: its structure, the number of its groups, and the groups whose text is asked
for again. -/
structure Source where
  expr : Expr
  groups : Nat
  referenced : List Nat

def Source.read (pattern : String) : Option Source := do
  let bound := 8 * pattern.length + 16
  let (expr, reading) ← (Reader.readChoice bound 0).run
    { rest := pattern.toList
      flags := {}
      groups := 0
      names := []
      referenced := []
      numbered := false
      groupLimit := pattern.utf8ByteSize / 2 }
  guard reading.rest.isEmpty
  pure ⟨expr, reading.groups, reading.referenced⟩

end DeclarativeForm.Pattern
