/-!
Tables in the order of insertion. Putting a value under a key that is there keeps its place, a new
key goes to the end, and taking a key out keeps the order of the rest.
-/

set_option autoImplicit false

namespace DeclarativeForm

/-- A table from texts to values that remembers when each key was first put. -/
abbrev Keyed (α : Type) := List (String × α)

namespace Keyed

variable {α : Type}

def find? (key : String) : Keyed α → Option α
  | [] => none
  | (k, value) :: rest => if k = key then some value else find? key rest

def has (key : String) (table : Keyed α) : Bool := (find? key table).isSome

/-- Puts a value under a key, in its place if the key is there and at the end if not. -/
def put (key : String) (value : α) : Keyed α → Keyed α
  | [] => [(key, value)]
  | (k, old) :: rest => if k = key then (k, value) :: rest else (k, old) :: put key value rest

def erase (key : String) : Keyed α → Keyed α
  | [] => []
  | (k, value) :: rest => if k = key then rest else (k, value) :: erase key rest

def putAll (pairs : List (String × α)) (table : Keyed α) : Keyed α :=
  pairs.foldl (fun table pair => put pair.1 pair.2 table) table

/-- The table of a list of pairs; of equal keys the last value counts, at the place of the first. -/
def ofList (pairs : List (String × α)) : Keyed α := putAll pairs []

def keys (table : Keyed α) : List String := table.map Prod.fst

theorem find?_put_self (key : String) (value : α) (table : Keyed α) :
    find? key (put key value table) = some value := by
  induction table with
  | nil => simp [put, find?]
  | cons pair rest ih =>
    obtain ⟨k, old⟩ := pair
    by_cases same : k = key <;> simp [put, find?, same, ih]

theorem find?_put_other {key other : String} (different : other ≠ key) (value : α)
    (table : Keyed α) : find? other (put key value table) = find? other table := by
  induction table with
  | nil => simp [put, find?, Ne.symm different]
  | cons pair rest ih =>
    obtain ⟨k, old⟩ := pair
    by_cases same : k = key
    · subst same; simp [put, find?, Ne.symm different]
    · simp [put, find?, same, ih]

end Keyed

end DeclarativeForm
