import DeclarativeForm.Text.Wrap.Fragment
import DeclarativeForm.Text.Wrap.Minima

/-!
Wrapping texts to lines of some width. The breaks of a paragraph are chosen together, so that its
lines come out as even as they can: every line has a cost, and the paragraph is broken where the
sum of the costs is least.
-/

set_option autoImplicit false

namespace DeclarativeForm.Text

structure WrapCosts where
  /-- Each line. -/
  line : Nat
  /-- Each column beyond the width. -/
  overflow : Nat
  /-- A last line of one piece that is shorter than this part of the width … -/
  shortPart : Nat
  /-- … costs this much. -/
  short : Nat

def WrapCosts.standard : WrapCosts := ⟨1000, 2500, 4, 25⟩

/-- The cost of the line of the pieces from `first` up to `past`, added to that of the lines before
it. `starts` holds the columns before each piece. -/
def lineCost (costs : WrapCosts) (limit : Nat) (pieces : Array Fragment) (starts : Array Nat)
    (before first past : Nat) : Nat :=
  let start (piece : Nat) : Nat := starts[piece]?.getD 0
  let trailing := match pieces[past - 1]? with
    | some last => last.spaces
    | none => 0
  let columns := start past - start first - trailing
  let target := max limit 1
  let cost := before + costs.line
  if target < columns then cost + (columns - target) * costs.overflow
  else if past < pieces.size then cost + (target - columns) * (target - columns)
  else if first + 1 = past && costs.shortPart * columns < target then cost + costs.short
  else cost

/-- The columns before each piece, and those of all pieces. -/
def startColumns (pieces : List Fragment) : Array Nat :=
  (pieces.foldl (fun (starts, total) piece =>
    let total := total + piece.columns + piece.spaces
    (starts.push total, total)) (#[0], 0)).1

/-- The lines that end with the piece before `past`, in reverse order, read off the breaks chosen.
The first number bounds the lines. -/
def linesUpTo (pieces : List Fragment) (breaks : Array Minima.Least) :
    Nat → Nat → List (List Fragment)
  | 0, _ => []
  | steps + 1, past =>
    let first := (breaks[past]?.getD ⟨0, 0⟩).row
    let line := (pieces.drop first).take (past - first)
    if first = 0 then [line] else line :: linesUpTo pieces breaks steps first

def fit (limit : Nat) (pieces : List Fragment) : List (List Fragment) :=
  let starts := startColumns pieces
  let breaks := Minima.leastEntries (pieces.length + 1)
    (lineCost .standard limit pieces.toArray starts)
  (linesUpTo pieces breaks (pieces.length + 1) pieces.length).reverse

/-- A line of pieces, without the spaces at its end. -/
def lineText : List Fragment → List Char
  | [] => []
  | [last] => last.characters
  | first :: rest => first.text ++ lineText rest

/-- A paragraph in lines. One that has fewer bytes than a line has columns is left as it is, but
for the spaces at its end. -/
def wrapParagraph (limit : Nat) (paragraph : List Char) : List (List Char) :=
  if paragraph.foldl (fun size c => size + c.utf8Size) 0 < limit then
    [(paragraph.reverse.dropWhile (· = ' ')).reverse]
  else (fit limit (fragments paragraph limit)).map lineText

/-- The parts of a text between line feeds. -/
def paragraphs : List Char → List (List Char)
  | [] => [[]]
  | c :: rest =>
    if c = '\n' then [] :: paragraphs rest
    else
      match paragraphs rest with
      | [] => [[c]]
      | first :: later => (c :: first) :: later

def wrap (limit : Nat) (text : String) : List String :=
  ((paragraphs text.toList).flatMap (wrapParagraph limit)).map String.ofList

end DeclarativeForm.Text
