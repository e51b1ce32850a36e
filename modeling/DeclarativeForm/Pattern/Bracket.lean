import DeclarativeForm.Pattern.Escape

/-!
Bracketed classes such as `[^a-z\d]`. A class is first scanned up to the bracket that closes it,
with its escapes resolved, and then read: items, ranges, classes within classes, named sets such as
`[:alpha:]`, and the operators `&&`, `--` and `~~`, which take from left to right.
-/

set_option autoImplicit false

namespace DeclarativeForm.Pattern.Bracket

/-- A piece of a class: a character as written, one that stands for itself, or a kind. -/
inductive Token
  | written (c : Char)
  | plain (c : Char)
  | kind (set : CharSet)
deriving Repr

namespace Token

/-- Whether a piece is a character as written. -/
def isWritten (c : Char) : Token → Bool
  | written d => c == d
  | plain _ | kind _ => false

def char? : Token → Option Char
  | written c | plain c => some c
  | kind _ => none

/-- The set of a piece on its own. -/
def set : Token → CharSet
  | written c | plain c => .single c
  | kind set => set

/-- The characters with a meaning of their own, which they lose when escaped. -/
def special : List Char := "\\.+*?()|[]\x7b\x7d^$#&-~".toList

def ofEscape : Escape → List Token
  | .char c => [if special.contains c then plain c else written c]
  | .kind set => [kind set]
  | .hexDigit negated =>
    (if negated then "[^0-9A-Fa-f]" else "[0-9A-Fa-f]").toList.map written

end Token

/-- Reads an escape of a class. The letters that outside of classes stand for places stand for
themselves, and `b` for a control character. -/
def readEscape (fold : Bool) : List Char → Option (List Token × List Char)
  | 'b' :: rest => some ([.written '\x08'], rest)
  | c :: rest =>
    if ['A', 'B', 'G', 'K', 'Z', 'k', 'z'].contains c then some ([.written c], rest)
    else (Escape.read fold (c :: rest)).map fun (escape, rest) => (Token.ofEscape escape, rest)
  | [] => none

/-- Scans pieces up to the bracket that closes the class, with a number of brackets open. The first
number bounds the steps. -/
def scanFrom (fold : Bool) : Nat → Nat → List Char → Option (List Token × List Char)
  | 0, _, _ => none
  | _ + 1, _, [] => none
  | bound + 1, nesting, c :: rest =>
    if c = '\\' then do
      let (tokens, rest) ← readEscape fold rest
      let (others, rest) ← scanFrom fold bound nesting rest
      pure (tokens ++ others, rest)
    else if c = ']' && nesting = 1 then some ([.written c], rest)
    else do
      let nesting :=
        if c = '[' then nesting + 1 else if c = ']' then nesting - 1 else nesting
      let (others, rest) ← scanFrom fold bound nesting rest
      pure (.written c :: others, rest)

/-- Scans the class that a bracket has opened. A closing bracket that comes first, or first after
the sign of a complement, does not close it. -/
def scan (fold : Bool) (text : List Char) : Option (List Token × List Char) :=
  let start : List Char :=
    if text.head? = some '^' then
      if text[1]? = some ']' then ['^', ']'] else ['^']
    else if text.head? = some ']' then [']']
    else []
  (scanFrom fold (text.length + 1) 1 (text.drop start.length)).map fun (tokens, rest) =>
    (start.map .written ++ tokens, rest)

inductive Operator
  | intersection
  | difference
  | symmetricDifference
deriving DecidableEq, Repr

def Operator.apply : Operator → CharSet → CharSet → CharSet
  | intersection => .intersection
  | difference => .difference
  | symmetricDifference => .symmetricDifference

/-- What has been read of a class: the items since the latest operator, and what stands before
it. -/
structure Operand where
  before : Option (Operator × CharSet)
  items : CharSet

namespace Operand

def initial : Operand := ⟨none, .none⟩

def add (operand : Operand) (set : CharSet) : Operand :=
  { operand with items := .union operand.items set }

def value (fold : Bool) (operand : Operand) : CharSet :=
  match operand.before with
  | none => operand.items
  | some (operator, first) => operator.apply (.foldedIf fold first) (.foldedIf fold operand.items)

def operate (fold : Bool) (operand : Operand) (operator : Operator) : Operand :=
  ⟨some (operator, operand.value fold), .none⟩

end Operand

def operator? : List Token → Option Operator
  | .written '&' :: .written '&' :: _ => some .intersection
  | .written '-' :: .written '-' :: _ => some .difference
  | .written '~' :: .written '~' :: _ => some .symmetricDifference
  | _ => none

def named? : List Token → Option (CharSet × List Token)
  | .written ':' :: tokens => do
    let negated := tokens.head?.any (Token.isWritten '^')
    let tokens := if negated then tokens.drop 1 else tokens
    let name := tokens.takeWhile fun token => !token.isWritten ':'
    let set ← CharSet.ascii? (String.ofList (← name.mapM Token.char?))
    match tokens.drop name.length with
    | .written ':' :: .written ']' :: rest => pure (.negatedIf negated set, rest)
    | _ => none
  | _ => none

/-- An item or a range at the start of the pieces. A dash before a dash or the closing bracket makes
no range. -/
def readItem (first : Token) (rest : List Token) : Option (CharSet × List Token) :=
  match rest with
  | .written '-' :: second :: others =>
    if second.isWritten ']' || second.isWritten '-' then some (first.set, rest)
    else do
      let low ← first.char?
      let high ← second.char?
      guard (low ≤ high)
      pure (.range low.toNat high.toNat, others)
  | _ => some (first.set, rest)

/-- What stands at the start of a class: the sign of a complement, and dashes or one closing bracket
that stand for themselves. -/
def readStart (tokens : List Token) : Bool × Operand × List Token :=
  let negated := tokens.head?.any (Token.isWritten '^')
  let tokens := if negated then tokens.drop 1 else tokens
  let dashes := tokens.takeWhile (Token.isWritten '-')
  let tokens := tokens.drop dashes.length
  if dashes.isEmpty then
    if tokens.head?.any (Token.isWritten ']') then
      (negated, Operand.initial.add (.single ']'), tokens.drop 1)
    else (negated, .initial, tokens)
  else (negated, Operand.initial.add (.single '-'), tokens)

/-- Reads the rest of a class up to its closing bracket. The first number bounds the steps. -/
def readItems (fold : Bool) : Nat → Bool → Operand → List Token → Option (CharSet × List Token)
  | 0, _, _, _ => none
  | _ + 1, _, _, [] => none
  | bound + 1, negated, operand, first :: rest =>
    if first.isWritten ']' then
      some (.negatedIf negated (.foldedIf fold (operand.value fold)), rest)
    else if first.isWritten '[' then do
      let (set, rest) ← (named? rest).or
        (let (negated, start, tokens) := readStart rest
         readItems fold bound negated start tokens)
      readItems fold bound negated (operand.add set) rest
    else match operator? (first :: rest) with
      | some operator => readItems fold bound negated (operand.operate fold operator) (rest.drop 1)
      | none => do
        let (set, rest) ← readItem first rest
        readItems fold bound negated (operand.add set) rest

def read (fold : Bool) (text : List Char) : Option (CharSet × List Char) := do
  let (tokens, rest) ← scan fold text
  let (negated, start, tokens) := readStart tokens
  let (set, left) ← readItems fold (tokens.length + 1) negated start tokens
  guard left.isEmpty
  pure (set, rest)

example : ((read false "a-c]x".toList).map fun (set, rest) =>
    (set.contains 'b', set.contains '-', rest)) = some (true, false, ['x']) := by decide +kernel
example : ((read false "]a-]".toList).map fun (set, rest) =>
    (set.contains ']', set.contains '-', rest)) = some (true, true, []) := by decide +kernel
example : (read false "b-a]".toList).isNone := by decide +kernel

end DeclarativeForm.Pattern.Bracket
