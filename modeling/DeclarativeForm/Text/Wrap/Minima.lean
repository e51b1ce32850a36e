/-!
The least entries of the columns of a matrix, found from few of its entries. The matrix lies above
its diagonal, and the entries of a row may depend on the least entry of the column with the row's
number, so columns are finished one after the other. For a matrix where the row of the least entry
never goes back from one column to the next, the answers are the least entries; for others they
are the entries this search finds.
-/

set_option autoImplicit false

namespace DeclarativeForm.Text.Minima

/-- The entry of a row and a column. -/
abbrev Entries := Nat → Nat → Nat

/-- Takes rows off a stack that a further row beats in the column of their place. -/
def beatenOff (entry : Entries) (columns : List Nat) (row : Nat) : List Nat → List Nat
  | [] => []
  | top :: below =>
    match columns[below.length]? with
    | some column =>
      if entry row column < entry top column then beatenOff entry columns row below
      else top :: below
    | none => top :: below

/-- The rows that may hold the least entry of some column, no more than there are columns. -/
def candidates (entry : Entries) (rows columns : List Nat) : List Nat :=
  (rows.foldl (fun stack row =>
    let stack := beatenOff entry columns row stack
    if stack.length = columns.length then stack else row :: stack) []).reverse

/-- Every second element, from the second one on. -/
def alternate {α : Type} : List α → List α
  | _ :: second :: rest => second :: alternate rest
  | _ => []

theorem length_alternate_lt {α : Type} : ∀ (first : α) (rest : List α),
    (alternate (first :: rest)).length < (first :: rest).length
  | _, [] => by simp [alternate]
  | _, [_] => by simp [alternate]
  | _, _ :: third :: rest => by
    have := length_alternate_lt third rest
    simp only [alternate, List.length_cons] at this ⊢
    omega

/-- Goes through the rows up to `last` for the least entry of a column; of equal entries that of
the smaller row counts. Gives the row and the rows from the last one on. -/
def leastUpTo (entry : Entries) (column last best : Nat) : List Nat → Nat × List Nat
  | [] => (best, [])
  | row :: rest =>
    let better := entry row column < entry best column
      || (entry row column = entry best column && row < best)
    let best := if better then row else best
    if row = last then (best, row :: rest) else leastUpTo entry column last best rest

/-- Finds the least entries of the columns in between, given those of every second one. -/
def fillBetween (entry : Entries) : List Nat → List Nat → List Nat → List Nat
  | column :: _ :: columns, found :: later, row :: rows =>
    let (least, left) := leastUpTo entry column found row (row :: rows)
    least :: found :: fillBetween entry columns later left
  | [column], _, row :: rows =>
    [(leastUpTo entry column ((row :: rows).getLastD row) row (row :: rows)).1]
  | _, _, _ => []

/-- The rows of the least entries of some columns. -/
def leastRows (entry : Entries) (rows : List Nat) : List Nat → List Nat
  | [] => []
  | first :: rest =>
    let kept := candidates entry rows (first :: rest)
    fillBetween entry (first :: rest) (leastRows entry kept (alternate (first :: rest))) kept
termination_by columns => columns.length
decreasing_by exact length_alternate_lt first rest

/-- The least entry found in a column, and its row. -/
structure Least where
  row : Nat
  value : Nat
deriving Repr, Inhabited

/-- A search in progress. Columns up to `finished` are done; those up to `tentative` hold the least
of the entries seen; rows before `base` are out of the question. -/
structure Search where
  finished : Nat
  base : Nat
  tentative : Nat
  found : Array Least
deriving Repr

def Search.value (search : Search) (column : Nat) : Nat := (search.found[column]?.getD ⟨0, 0⟩).value

/-- Notes an entry of a column if it is the first or less than the one noted. -/
def Search.record (search : Search) (column : Nat) (least : Least) : Search :=
  if search.found.size ≤ column then { search with found := search.found.push least }
  else if least.value < search.value column then
    { search with found := search.found.setIfInBounds column least }
  else search

/-- The numbers from `first` up to and including `last`. -/
def between (first last : Nat) : List Nat :=
  (List.range (last + 1 - first)).map fun offset => first + offset

/-- Finishes the next column of `size` columns. `entry` takes the value of the column with the
row's number, the row and the column. -/
def Search.advance (size : Nat) (entry : Nat → Entries) (search : Search) : Search :=
  let cell (row column : Nat) : Nat := entry (search.value row) row column
  let next := search.finished + 1
  if search.tentative < next then
    let rows := between search.base search.finished
    let tentative := min (search.finished + rows.length) (size - 1)
    let columns := between next tentative
    let noted := ((leastRows cell rows columns).zip columns).foldl
      (fun noted (row, column) => Search.record noted column ⟨row, cell row column⟩) search
    { noted with finished := next, tentative }
  else if cell search.finished next < search.value next then
    { finished := next
      base := search.finished
      tentative := next
      found := search.found.setIfInBounds next ⟨search.finished, cell search.finished next⟩ }
  else if search.value search.tentative ≤ cell search.finished search.tentative then
    { search with finished := next }
  else { search with finished := next, base := search.finished, tentative := next }

/-- The least entries of `size` columns; that of the first is zero. -/
def leastEntries (size : Nat) (entry : Nat → Entries) : Array Least :=
  let start : Search := ⟨0, 0, 0, #[⟨0, 0⟩]⟩
  ((List.range (size - 1)).foldl (fun search _ => search.advance size entry) start).found

end DeclarativeForm.Text.Minima
