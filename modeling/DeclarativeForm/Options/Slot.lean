import DeclarativeForm.Json.Basic
import DeclarativeForm.Notice
import DeclarativeForm.Schema.Choice

/-!
The options of one field or flow step. A request for options issues a ticket; the slot takes the
answer of the ticket issued last and refuses all others. Tickets are told apart by generations:
numbers that are never used twice, so that a slot which was reset, moved or built anew never takes
the answer of an older ticket. Generations are natural numbers; kept in 64 bits they would come
round again after 2^64 requests, which no run of a form gets to.
-/

set_option autoImplicit false

namespace DeclarativeForm

/-- What options are fetched for: a field, or one step of a flow. -/
inductive FetchTarget
  | field (path : String)
  | flowStep (path step : String)
deriving DecidableEq, Repr

def FetchTarget.key : FetchTarget → String
  | field path => path
  | flowStep path step => path ++ "." ++ step

structure Ticket where
  target : FetchTarget
  generation : Nat
  function : String
  args : List Json
deriving Repr

/-- What a fetch answers: options, or the reason of its failure. -/
abbrev FetchResult := Except String (List Choice)

structure OptionsSlot where
  options : List Choice
  loading : Bool
  generation : Nat
  /-- The arguments of the last request. -/
  requestedFor : Option (List Json)
  /-- The arguments the options were loaded for. -/
  loadedFor : Option (List Json)
deriving Repr

inductive RequestOutcome
  | issued (ticket : Ticket)
  /-- The options are there or on their way. -/
  | unchanged
  /-- An argument is absent and the slot was emptied. -/
  | cleared
deriving Repr

def RequestOutcome.ticket? : RequestOutcome → Option Ticket
  | issued ticket => some ticket
  | _ => none

namespace OptionsSlot

def empty : OptionsSlot := ⟨[], false, 0, none, none⟩

instance : Inhabited OptionsSlot := ⟨empty⟩

def ofGeneration (generation : Nat) : OptionsSlot := { empty with generation }

/-- Whether a slot holds anything that an absent argument takes away. -/
def holdsState (slot : OptionsSlot) : Bool :=
  slot.loading || slot.requestedFor.isSome || !slot.options.isEmpty

/-- Requests options. `generation` has not been used before; `args` is `none` when an argument is
absent. Without `force`, a request for the arguments of the last one issues nothing while that one
is on its way, or when the source keeps its answers. -/
def request (slot : OptionsSlot) (generation : Nat) (target : FetchTarget)
    (source : OptionsSource) (args : Option (List Json)) (force : Bool) :
    OptionsSlot × RequestOutcome :=
  match args with
  | none => (ofGeneration generation, if slot.holdsState then .cleared else .unchanged)
  | some args =>
    let sameRequest := slot.requestedFor == some args
    if !force && sameRequest && (slot.loading || source.caches) then (slot, .unchanged)
    else
      ({ options := if sameRequest then slot.options else []
         loading := true
         generation
         requestedFor := some args
         loadedFor := if sameRequest then slot.loadedFor else none },
        .issued { target, generation, function := source.function, args })

/-- Takes the answer of a ticket, if the ticket is the one issued last. -/
def complete (slot : OptionsSlot) (ticket : Ticket) (result : FetchResult) : Option OptionsSlot :=
  if ticket.generation ≠ slot.generation then none
  else
    match result with
    | .ok options => some { slot with loading := false, options, loadedFor := some ticket.args }
    | .error _ => some { slot with loading := false, options := [], loadedFor := none }

/-- Drops everything, so that no ticket issued before is taken. -/
def reset (_slot : OptionsSlot) (generation : Nat) : OptionsSlot := ofGeneration generation

theorem complete_eq_none_iff (slot : OptionsSlot) (ticket : Ticket) (result : FetchResult) :
    slot.complete ticket result = none ↔ ticket.generation ≠ slot.generation := by
  unfold complete
  split
  · simp_all
  · cases result <;> simp_all

end OptionsSlot

def Ticket.completionNotices (ticket : Ticket) : FetchResult → List Notice
  | .ok _ => []
  | .error cause => [.fetchFailed ticket.target.key cause]

end DeclarativeForm
