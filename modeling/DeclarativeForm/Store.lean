import DeclarativeForm.Flow.State
import DeclarativeForm.Path.Access
import DeclarativeForm.Path.Reindex

/-!
What a mounted form keeps: its values, the errors found so far, the options and flow states by the
paths of their fields, and a few marks of the host. Errors, options, flows and password marks are
tables keyed by the texts of paths.
-/

set_option autoImplicit false

namespace DeclarativeForm

/-- The first error of each field, by the text of its path. -/
abbrev ErrorMap := Keyed String

structure Store where
  values : Json
  initial : Json
  errors : ErrorMap
  slots : Keyed OptionsSlot
  flows : Keyed FlowState
  openDropdown : Option String
  shownPasswords : Keyed Bool
  submitting : Bool
deriving Repr

namespace Store

/-- A store with initial values; anything but an object counts as an empty one. -/
def ofInitial (initial : Json) : Store :=
  let initial := if initial.isObject then initial else .object []
  { values := initial, initial, errors := [], slots := [], flows := [], openDropdown := none,
    shownPasswords := [], submitting := false }

def value? (store : Store) (path : FieldPath) : Option Json := path.get? store.values

def isDirty (store : Store) : Bool := store.values != store.initial

def error? (store : Store) (key : String) : Option String := store.errors.find? key

def setError (store : Store) (key message : String) : Store :=
  { store with errors := store.errors.put key message }

def clearError (store : Store) (key : String) : Store :=
  { store with errors := store.errors.erase key }

/-- Writes a value and clears the error recorded at its path. -/
def setValue (store : Store) (path : FieldPath) (value : Json) : Store :=
  { store with
    values := path.set store.values value
    errors := store.errors.erase path.text }

def removeValue (store : Store) (path : FieldPath) : Store :=
  { store with values := path.without store.values }

def replaceErrors (store : Store) (errors : ErrorMap) : Store := { store with errors }

/-- Replaces the errors under some keys by others and leaves the rest alone. -/
def mergeErrorsUnder (store : Store) (ancestors : List String) (errors : ErrorMap) : Store :=
  { store with
    errors :=
      (store.errors.filter fun entry => !ancestors.any fun ancestor => isUnder entry.1 ancestor)
        |> Keyed.putAll errors }

def slot? (store : Store) (key : String) : Option OptionsSlot := store.slots.find? key

def slotOrEmpty (store : Store) (key : String) : OptionsSlot :=
  (store.slot? key).getD .empty

def putSlot (store : Store) (key : String) (slot : OptionsSlot) : Store :=
  { store with slots := store.slots.put key slot }

def flow? (store : Store) (key : String) : Option FlowState := store.flows.find? key

def putFlow (store : Store) (key : String) (state : FlowState) : Store :=
  { store with flows := store.flows.put key state }

/-- Opens a dropdown and closes any other; an open one is closed. -/
def toggleDropdown (store : Store) (key : String) : Store :=
  { store with openDropdown := if store.openDropdown = some key then none else some key }

def closeDropdowns (store : Store) : Store := { store with openDropdown := none }

def isPasswordShown (store : Store) (key : String) : Bool :=
  (store.shownPasswords.find? key).getD false

def togglePassword (store : Store) (key : String) : Store :=
  { store with shownPasswords := store.shownPasswords.put key (!store.isPasswordShown key) }

/-- Moves the keys of all tables after an item of a repeatable was removed. A dropdown that is
open below the repeatable is closed. -/
def reindexRemoval (store : Store) (repeatable : String) (removed : Nat) : Store :=
  { store with
    errors := store.errors.reindex repeatable removed
    slots := store.slots.reindex repeatable removed
    flows := store.flows.reindex repeatable removed
    shownPasswords := store.shownPasswords.reindex repeatable removed
    openDropdown := store.openDropdown.filter fun key =>
      !isUnder key repeatable || key = repeatable }

/-- Resets slots one after the other, each with a generation of its own. -/
def resetSlots (next : Nat) : Keyed OptionsSlot → Keyed OptionsSlot × Nat
  | [] => ([], next)
  | (key, slot) :: rest =>
    let (later, last) := resetSlots (next + 1) rest
    ((key, slot.reset next) :: later, last)

/-- The initial values again and every table empty. The slots stay, but what was fetched for them
is dropped. Also gives the next unused generation. -/
def reset (store : Store) (next : Nat) : Store × Nat :=
  let (slots, next) := resetSlots next store.slots
  ({ store with
      values := store.initial
      errors := []
      slots
      flows := []
      openDropdown := none
      shownPasswords := []
      submitting := false }, next)

def request (store : Store) (key : String) (generation : Nat) (target : FetchTarget)
    (source : OptionsSource) (args : Option (List Json)) (force : Bool) :
    Store × RequestOutcome :=
  let (slot, outcome) := (store.slotOrEmpty key).request generation target source args force
  (store.putSlot key slot, outcome)

/-- Takes the answer of a ticket for the slot of a key, if there is such a slot and it waits for
the ticket. -/
def completeSlot (store : Store) (key : String) (ticket : Ticket) (result : FetchResult) :
    Option Store := do
  let slot ← store.slot? key
  let slot ← slot.complete ticket result
  some (store.putSlot key slot)

def complete (store : Store) (ticket : Ticket) (result : FetchResult) : Option Store :=
  match ticket.target with
  | .field path => store.completeSlot path ticket result
  | .flowStep path step => do
    let state ← store.flow? path
    let state ← state.complete step ticket result
    some (store.putFlow path state)

end Store

end DeclarativeForm
