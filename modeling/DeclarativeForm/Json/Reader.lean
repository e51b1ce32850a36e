import DeclarativeForm.Json.Basic

/-!
Reading JSON text. The reader works on the characters still unread; a failure records its cause
and how many bytes were left, from which the line and column are found at the end. Containers
may be nested 127 deep, a repeated key keeps its last value, and a double is read in two
roundings: the digits as an integer of 64 bits, then one product or quotient with a power of ten.
-/

set_option autoImplicit false

namespace DeclarativeForm.Json

inductive SyntaxFault
  | endInValue
  | endInString
  | endInArray
  | endInObject
  | expectedValue
  | expectedWord
  | expectedColon
  | expectedItemSeparator
  | expectedMemberSeparator
  | keyNotString
  | trailingComma
  | trailingCharacters
  | invalidNumber
  | numberOutOfRange
  | invalidEscape
  | loneSurrogate
  | unfinishedSurrogatePair
  | controlCharacter
  | tooDeep
deriving DecidableEq, Repr

def SyntaxFault.message : SyntaxFault → String
  | endInValue => "EOF while parsing a value"
  | endInString => "EOF while parsing a string"
  | endInArray => "EOF while parsing a list"
  | endInObject => "EOF while parsing an object"
  | expectedValue => "expected value"
  | expectedWord => "expected ident"
  | expectedColon => "expected `:`"
  | expectedItemSeparator => "expected `,` or `]`"
  | expectedMemberSeparator => "expected `,` or `\x7d`"
  | keyNotString => "key must be a string"
  | trailingComma => "trailing comma"
  | trailingCharacters => "trailing characters"
  | invalidNumber => "invalid number"
  | numberOutOfRange => "number out of range"
  | invalidEscape => "invalid escape"
  | loneSurrogate => "lone leading surrogate in hex escape"
  | unfinishedSurrogatePair => "unexpected end of hex escape"
  | controlCharacter => "control character (\\u0000-\\u001F) found while parsing a string"
  | tooDeep => "recursion limit exceeded"

/-- A failure: its cause and the number of bytes left unread. -/
structure Stop where
  fault : SyntaxFault
  unread : Nat
deriving DecidableEq, Repr

/-- What a step has read and the characters after it. -/
abbrev Step (α : Type) := Except Stop (α × List Char)

def byteCount (text : List Char) : Nat := text.foldl (fun count c => count + c.utf8Size) 0

/-- Fails where the text is read up to. -/
def stopHere {α : Type} (fault : SyntaxFault) (rest : List Char) : Except Stop α :=
  .error ⟨fault, byteCount rest⟩

/-- Fails one byte further on, unless the text has ended. -/
def stopAfterNext {α : Type} (fault : SyntaxFault) (rest : List Char) : Except Stop α :=
  .error ⟨fault, byteCount rest - 1⟩

def isSpace (c : Char) : Bool := c = ' ' || c = '\n' || c = '\t' || c = '\r'

def skipSpace (text : List Char) : List Char := text.dropWhile isSpace

/-- Reads the rest of a word such as `true`. -/
def readWord (value : Json) : List Char → List Char → Step Json
  | [], rest => .ok (value, rest)
  | _ :: _, [] => stopHere .endInValue []
  | expected :: word, c :: rest =>
    if c = expected then readWord value word rest else stopAfterNext .expectedWord (c :: rest)

/-- The largest integer the digits of a number are collected in. -/
def wordLimit : Nat := Nat.pow 2 64

def digitValue (c : Char) : Nat := c.toNat - 48

/-- A double from a collected significand and a power of ten. Each step rounds: the significand,
the division by `10 ^ 308` while the power is out of the table, the last product or quotient.
`none` is a number out of range. -/
def scaleByTen : Nat → Binary64 → Int → Option Binary64
  | 0, x, _ => some x
  | steps + 1, x, exponent =>
    if exponent.natAbs ≤ 308 then
      let power := Binary64.ofNat (Nat.pow 10 exponent.natAbs)
      if 0 ≤ exponent then
        let product := x.times power
        if product.magnitude = Binary64.infinityBits then none else some product
      else some (x.divide power)
    else if x.magnitude = 0 then some x
    else if 0 ≤ exponent then none
    else scaleByTen steps (x.divide (Binary64.ofNat (Nat.pow 10 308))) (exponent + 308)

def makeDouble (negative : Bool) (significand : Nat) (exponent : Int) (rest : List Char) :
    Step Number :=
  -- After four divisions by `10 ^ 308` any 64-bit significand has become zero.
  match scaleByTen 8 (Binary64.ofNat significand) (max exponent (-2000)) with
  | some x => .ok (.double { x with negative }, rest)
  | none => stopHere .numberOutOfRange rest

/-- Reads digits into a significand below `wordLimit`, counting them. Stops before a digit that
does not fit. -/
def collectDigits : Nat → Nat → List Char → Nat × Nat × List Char
  | significand, count, [] => (significand, count, [])
  | significand, count, c :: rest =>
    if c.isDigit && decide (10 * significand + digitValue c < wordLimit) then
      collectDigits (10 * significand + digitValue c) (count + 1) rest
    else (significand, count, c :: rest)

/-- Exponents are collected below `2 ^ 31`; `none` is a larger one. -/
def collectExponent : Nat → List Char → Option Nat × List Char
  | exponent, [] => (some exponent, [])
  | exponent, c :: rest =>
    if c.isDigit then
      if 10 * exponent + digitValue c < Nat.pow 2 31 then
        collectExponent (10 * exponent + digitValue c) rest
      else (none, rest)
    else (some exponent, c :: rest)

def readExponent (negative : Bool) (significand : Nat) (start : Int) (rest : List Char) :
    Step Number :=
  let (downward, digits) := match rest with
    | '+' :: digits => (false, digits)
    | '-' :: digits => (true, digits)
    | digits => (false, digits)
  match digits with
  | [] => stopHere .endInValue []
  | c :: after =>
    if !c.isDigit then stopAfterNext .invalidNumber (c :: after)
    else match collectExponent (digitValue c) after with
      | (some exponent, rest) =>
        let shift : Int := if downward then -(exponent : Int) else exponent
        makeDouble negative significand (start + shift) rest
      | (none, rest) =>
        if significand ≠ 0 ∧ !downward then stopHere .numberOutOfRange rest
        else .ok (.double ⟨negative, 0⟩, rest.dropWhile Char.isDigit)

def readOptionalExponent (negative : Bool) (significand : Nat) (exponent : Int)
    (rest : List Char) : Step Number :=
  match rest with
  | 'e' :: after => readExponent negative significand exponent after
  | 'E' :: after => readExponent negative significand exponent after
  | rest => makeDouble negative significand exponent rest

/-- Reads the places after the point. Digits that no longer fit are skipped. -/
def readPlaces (negative : Bool) (significand : Nat) (start : Int) (rest : List Char) :
    Step Number :=
  match collectDigits significand 0 rest with
  | (collected, count, after) =>
    match after with
    | c :: _ =>
      if c.isDigit then
        readOptionalExponent negative collected (start - (count : Int))
          (after.dropWhile Char.isDigit)
      else if count = 0 then stopAfterNext .invalidNumber after
      else readOptionalExponent negative collected (start - (count : Int)) after
    | [] =>
      if count = 0 then stopHere .endInValue []
      else makeDouble negative collected (start - (count : Int)) []

/-- What follows the whole digits of a number that fits a word. -/
def readAfterWhole (negative : Bool) (significand : Nat) (rest : List Char) : Step Number :=
  match rest with
  | '.' :: after => readPlaces negative significand 0 after
  | 'e' :: after => readExponent negative significand 0 after
  | 'E' :: after => readExponent negative significand 0 after
  | rest =>
    if !negative then .ok (.integer significand, rest)
    else if significand = 0 ∨ Nat.pow 2 63 < significand then
      .ok (.double { Binary64.ofNat significand with negative := true }, rest)
    else .ok (.integer (-(significand : Int)), rest)

def readNumber (negative : Bool) (text : List Char) : Step Number :=
  match text with
  | [] => stopHere .endInValue []
  | '0' :: rest =>
    match rest with
    | c :: _ => if c.isDigit then stopAfterNext .invalidNumber rest else
      readAfterWhole negative 0 rest
    | [] => readAfterWhole negative 0 rest
  | c :: rest =>
    if !c.isDigit then stopAfterNext .invalidNumber (c :: rest)
    else
      let (significand, _, after) := collectDigits 0 0 (c :: rest)
      match after with
      | d :: _ =>
        if d.isDigit then
          let dropped := after.takeWhile Char.isDigit
          let exponent : Int := dropped.length
          match after.dropWhile Char.isDigit with
          | '.' :: places => readPlaces negative significand exponent places
          | following => readOptionalExponent negative significand exponent following
        else readAfterWhole negative significand after
      | [] => readAfterWhole negative significand []

def hexValue? (c : Char) : Option Nat :=
  if c.isDigit then some (c.toNat - 48)
  else if 'a' ≤ c ∧ c ≤ 'f' then some (c.toNat - 87)
  else if 'A' ≤ c ∧ c ≤ 'F' then some (c.toNat - 55)
  else none

/-- Reads the four digits of a `\u` escape; they take four bytes, whatever they are. -/
def readHex (text : List Char) : Step Nat :=
  if byteCount text < 4 then stopHere .endInString []
  else
    match text with
    | a :: b :: c :: d :: rest =>
      match hexValue? a, hexValue? b, hexValue? c, hexValue? d with
      | some a, some b, some c, some d => .ok (4096 * a + 256 * b + 16 * c + d, rest)
      | _, _, _, _ => .error ⟨.invalidEscape, byteCount text - 4⟩
    | _ => .error ⟨.invalidEscape, byteCount text - 4⟩

/-- Reads a `\u` escape after its mark, two of them for a surrogate pair. -/
def readUnicode (text : List Char) : Except Stop (Char × List Char) := do
  let (first, rest) ← readHex text
  if 0xDC00 ≤ first ∧ first ≤ 0xDFFF then stopHere .loneSurrogate rest
  else if first < 0xD800 ∨ 0xDBFF < first then .ok (Char.ofNat first, rest)
  else match rest with
    | [] => stopHere .endInString []
    | '\\' :: [] => stopHere .endInString []
    | '\\' :: 'u' :: after =>
      let (second, rest) ← readHex after
      if second < 0xDC00 ∨ 0xDFFF < second then stopHere .loneSurrogate rest
      else .ok (Char.ofNat (0x10000 + (first - 0xD800) * 0x400 + (second - 0xDC00)), rest)
    | '\\' :: after => stopAfterNext .unfinishedSurrogatePair after
    | rest => stopAfterNext .unfinishedSurrogatePair rest

def readEscape (text : List Char) : Step Char :=
  match text with
  | [] => stopHere .endInString []
  | c :: rest =>
    if c = '"' ∨ c = '\\' ∨ c = '/' then .ok (c, rest)
    else if c = 'b' then .ok (Char.ofNat 8, rest)
    else if c = 'f' then .ok (Char.ofNat 12, rest)
    else if c = 'n' then .ok ('\n', rest)
    else if c = 'r' then .ok ('\r', rest)
    else if c = 't' then .ok ('\t', rest)
    else if c = 'u' then readUnicode rest
    -- Only the first byte of the character has been read.
    else stopAfterNext .invalidEscape (c :: rest)

/-- Reads the rest of a string; `read` holds the characters so far in reverse. The first argument
bounds the number of characters left. -/
def readString : Nat → List Char → List Char → Step String
  | 0, _, rest => stopHere .endInString rest
  | fuel + 1, read, text =>
    match text with
    | [] => stopHere .endInString []
    | c :: rest =>
      if c = '"' then .ok (String.ofList read.reverse, rest)
      else if c = '\\' then
        match readEscape rest with
        | .ok (character, rest) => readString fuel (character :: read) rest
        | .error stop => .error stop
      else if c.toNat < 32 then stopHere .controlCharacter rest
      else readString fuel (c :: read) rest

/-- Reads the items of an array and the bracket after them. The number bounds the items left;
`first` says that no item has been read. -/
def readItems (readValue : List Char → Step Json) :
    Nat → Bool → List Json → List Char → Step (List Json)
  | 0, _, _, rest => stopHere .endInArray rest
  | fuel + 1, first, read, text =>
    match skipSpace text with
    | [] => stopHere .endInArray []
    | ']' :: rest => .ok (read.reverse, rest)
    | c :: rest =>
      if first then
        match readValue (c :: rest) with
        | .ok (value, rest) => readItems readValue fuel false (value :: read) rest
        | .error stop => .error stop
      else if c = ',' then
        match skipSpace rest with
        | [] => stopHere .endInValue []
        | ']' :: after => stopAfterNext .trailingComma (']' :: after)
        | item =>
          match readValue item with
          | .ok (value, rest) => readItems readValue fuel false (value :: read) rest
          | .error stop => .error stop
      else stopAfterNext .expectedItemSeparator (c :: rest)

def readMember (readValue : List Char → Step Json) (text : List Char) :
    Except Stop ((String × Json) × List Char) := do
  let (key, rest) ← readString (text.length + 1) [] text
  match skipSpace rest with
  | [] => stopHere .endInObject []
  | ':' :: after =>
    let (value, rest) ← readValue after
    .ok ((key, value), rest)
  | rest => stopAfterNext .expectedColon rest

/-- Reads the members of an object and the brace after them, in the manner of `readItems`. -/
def readMembers (readValue : List Char → Step Json) :
    Nat → Bool → List (String × Json) → List Char → Step (List (String × Json))
  | 0, _, _, rest => stopHere .endInObject rest
  | fuel + 1, first, read, text =>
    match skipSpace text with
    | [] => stopHere .endInObject []
    | '\x7d' :: rest => .ok (read, rest)
    | c :: rest =>
      if first then
        if c = '"' then
          match readMember readValue rest with
          | .ok ((key, value), rest) =>
            readMembers readValue fuel false (Members.insert key value read) rest
          | .error stop => .error stop
        else stopAfterNext .keyNotString (c :: rest)
      else if c = ',' then
        match skipSpace rest with
        | [] => stopHere .endInValue []
        | '"' :: after =>
          match readMember readValue after with
          | .ok ((key, value), rest) =>
            readMembers readValue fuel false (Members.insert key value read) rest
          | .error stop => .error stop
        | '\x7d' :: after => stopAfterNext .trailingComma ('\x7d' :: after)
        | rest => stopAfterNext .keyNotString rest
      else stopAfterNext .expectedMemberSeparator (c :: rest)

/-- Reads a value. The number is one more than the containers that may still be opened. -/
def readValue : Nat → List Char → Except Stop (Json × List Char)
  | 0, rest => stopHere .tooDeep rest
  | depth + 1, text =>
    match skipSpace text with
    | [] => stopHere .endInValue []
    | 'n' :: rest => readWord .null ['u', 'l', 'l'] rest
    | 't' :: rest => readWord (.bool true) ['r', 'u', 'e'] rest
    | 'f' :: rest => readWord (.bool false) ['a', 'l', 's', 'e'] rest
    | '"' :: rest => do
      let (value, rest) ← readString (rest.length + 1) [] rest
      .ok (.string value, rest)
    | '-' :: rest => do
      let (value, rest) ← readNumber true rest
      .ok (.number value, rest)
    | '[' :: rest =>
      if depth = 0 then stopAfterNext .tooDeep ('[' :: rest)
      else do
        let (items, rest) ← readItems (readValue depth) (rest.length + 1) true [] rest
        .ok (.array items, rest)
    | '\x7b' :: rest =>
      if depth = 0 then stopAfterNext .tooDeep ('\x7b' :: rest)
      else do
        let (members, rest) ← readMembers (readValue depth) (rest.length + 1) true [] rest
        .ok (.object members, rest)
    | c :: rest =>
      if c.isDigit then do
        let (value, rest) ← readNumber false (c :: rest)
        .ok (.number value, rest)
      else stopAfterNext .expectedValue (c :: rest)

/-- Reads one value and the blanks around it. -/
def readDocument (text : List Char) : Except Stop Json :=
  match readValue 128 text with
  | .error stop => .error stop
  | .ok (value, rest) =>
    match skipSpace rest with
    | [] => .ok value
    | rest => stopAfterNext .trailingCharacters rest

/-- A fault with its line, from one, and the number of bytes read of that line. -/
structure SyntaxError where
  fault : SyntaxFault
  line : Nat
  column : Nat
deriving DecidableEq, Repr

def SyntaxError.message (error : SyntaxError) : String :=
  error.fault.message ++ " at line " ++ toString error.line ++ " column " ++ toString error.column

def position : Nat → Nat → Nat → List Char → Nat × Nat
  | _, line, column, [] => (line, column)
  | bytes, line, column, c :: rest =>
    if bytes < c.utf8Size then (line, column + bytes)
    else if c = '\n' then position (bytes - 1) (line + 1) 0 rest
    else position (bytes - c.utf8Size) line (column + c.utf8Size) rest

def parse (text : String) : Except SyntaxError Json :=
  match readDocument text.toList with
  | .ok value => .ok value
  | .error stop =>
    let (line, column) := position (byteCount text.toList - stop.unread) 1 0 text.toList
    .error ⟨stop.fault, line, column⟩

end DeclarativeForm.Json
