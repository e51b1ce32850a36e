import DeclarativeForm.Keyed
import DeclarativeForm.Path.Reader

/-!
Keys after the removal of an item. Tables of a form are keyed by the texts of paths; when an item
of a repeatable is removed, the keys below it go and those of later items move down by one. Keys
are rewritten as texts, so that a key which only looks like a path is left alone.
-/

set_option autoImplicit false

namespace DeclarativeForm

/-- What is left of a text after a start. -/
def stripStart : List Char → List Char → Option (List Char)
  | [], text => some text
  | _ :: _, [] => none
  | expected :: start, c :: text => if c = expected then stripStart start text else none

/-- The characters before the first `]` and those after it. -/
def splitAtBracket : List Char → Option (List Char × List Char)
  | [] => none
  | c :: rest =>
    if c = ']' then some ([], rest)
    else (splitAtBracket rest).map fun (before, after) => (c :: before, after)

/-- The index of a bracketed numeral, which may carry a plus sign. -/
def bracketedIndex? (text : List Char) : Option Nat :=
  let digits := match text with
    | '+' :: digits => digits
    | digits => digits
  if digits.all Char.isDigit then FieldPath.indexOfDigits? digits else none

/-- `key` is `ancestor` or addresses something below it. -/
def isUnder (key ancestor : String) : Bool :=
  match stripStart ancestor.toList key.toList with
  | none => false
  | some [] => true
  | some (c :: _) => c = '.' || c = '['

/-- Where a key lands once item `removed` of a repeatable is gone: nowhere when it addressed that
item, one item down when it sat after it. -/
def reindexKey (key repeatable : String) (removed : Nat) : Option String :=
  let opening := repeatable.toList ++ ['[']
  match stripStart opening key.toList with
  | none => some key
  | some tail =>
    match splitAtBracket tail with
    | none => some key
    | some (digits, rest) =>
      match bracketedIndex? digits with
      | none => some key
      | some position =>
        if position = removed then none
        else if removed < position then
          some (String.ofList (opening ++ (toString (position - 1)).toList ++ ']' :: rest))
        else some key

/-- A table with its keys moved as `reindexKey` says. -/
def Keyed.reindex {α : Type} (table : Keyed α) (repeatable : String) (removed : Nat) : Keyed α :=
  table.foldl (fun moved (key, value) =>
    match reindexKey key repeatable removed with
    | some key => moved.put key value
    | none => moved) []

example : reindexKey "items[12].name" "items" 3 = some "items[11].name" := by decide +kernel
example : reindexKey "items[3].name" "items" 3 = none := by decide +kernel

end DeclarativeForm
