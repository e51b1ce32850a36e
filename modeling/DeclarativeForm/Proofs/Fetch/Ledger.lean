import DeclarativeForm.Proofs.Fetch.Session

/-!
The desk of an engine together with the log of its host. Every step of a host is a chain of moves
of this ledger, so what every move preserves holds in every session a host can get to. The moves
tell apart what can happen to a ticket: it is issued, it is moved or lost by the removal of an
item, it is dropped by a reset, it is handed out, and its answer is taken or refused.
-/

set_option autoImplicit false

namespace DeclarativeForm

structure Ledger where
  desk : Desk
  log : HostLog

def Session.ledger (session : Session) : Ledger := ⟨session.engine.desk, session.log⟩

namespace Ledger

def blank : Ledger := ⟨⟨fun _ => none, [], 1⟩, .empty⟩

/-- The tickets that were ever in the queue, as a list in any order. -/
def Knows (log : HostLog) (pending issued : List Ticket) : Prop :=
  ∀ ticket, ticket ∈ issued ↔ ticket ∈ log.issued ∨ ticket ∈ pending

theorem knows_append (log : HostLog) (pending : List Ticket) :
    Knows log pending (log.issued ++ pending) := fun _ => List.mem_append

/-- What was in the queue earlier need not be told again. -/
theorem knows_append_of_subset {log : HostLog} {earlier pending issued : List Ticket}
    (known : Knows log pending issued) (subset : earlier ⊆ pending) :
    Knows { log with issued := log.issued ++ earlier } pending issued := by
  intro ticket
  rw [known ticket]
  simp only [List.mem_append]
  constructor
  · rintro (old | new)
    · exact Or.inl (Or.inl old)
    · exact Or.inr new
  · rintro ((old | between) | new)
    · exact Or.inl old
    · exact Or.inr (subset between)
    · exact Or.inr new

def Replaces (slots : FetchTarget → Option OptionsSlot) (target : FetchTarget)
    (slot : OptionsSlot) (after : FetchTarget → Option OptionsSlot) : Prop :=
  ∀ other, after other = if other = target then some slot else slots other

inductive Move (ledger : Ledger) : Ledger → Prop
  | work (desk : Desk) (issued : List Ticket) (step : Desk.Step ledger.desk desk)
      (known : Knows ledger.log desk.pending issued) :
      Move ledger ⟨desk, { ledger.log with issued }⟩
  /-- An item is removed: slots and queued tickets follow their targets. -/
  | remove (repeatable : String) (removed : Nat) (slots : FetchTarget → Option OptionsSlot)
      (pending issued : List Ticket)
      (moved : ∀ target found, slots target = some found → ∃ old,
        old.reindex repeatable removed = some target ∧ ledger.desk.slots old = some found)
      (follows : pending =
        ledger.desk.pending.filterMap fun ticket => ticket.reindex repeatable removed)
      (known : Knows ledger.log pending issued) :
      Move ledger ⟨⟨slots, pending, ledger.desk.next⟩,
        { ledger.log with
          issued
          stranded := ledger.log.stranded ++
            ledger.log.strandedBy ledger.desk.slots repeatable removed }⟩
  /-- Everything is emptied. -/
  | empty (slots : FetchTarget → Option OptionsSlot) (next : Nat) (later : ledger.desk.next ≤ next)
      (blank : ∀ target found, slots target = some found →
        Desk.Blank ledger.desk.next next found) :
      Move ledger ⟨⟨slots, [], next⟩, ledger.log⟩
  | take :
      Move ledger ⟨{ ledger.desk with pending := [] },
        { ledger.log with handed := ledger.log.handed ++ ledger.desk.pending }⟩
  /-- The answer of a ticket is taken. -/
  | deliver (ticket : Ticket) (result : FetchResult) (slot after : OptionsSlot)
      (slots : FetchTarget → Option OptionsSlot) (issued : ticket ∈ ledger.log.issued)
      (isThere : ledger.desk.slots ticket.target = some slot)
      (taken : slot.complete ticket result = some after)
      (replaces : Replaces ledger.desk.slots ticket.target after slots) :
      Move ledger ⟨{ ledger.desk with slots }, ledger.log.complete ticket result true⟩
  /-- The answer of a ticket is refused. -/
  | refuse (ticket : Ticket) (result : FetchResult) (issued : ticket ∈ ledger.log.issued)
      (unwanted : ∀ slot, ledger.desk.slots ticket.target = some slot →
        slot.generation ≠ ticket.generation) :
      Move ledger ⟨ledger.desk, ledger.log.complete ticket result false⟩

abbrev Moves : Ledger → Ledger → Prop := Relation.ReflTransGen Move

theorem Moves.preserve {property : Ledger → Prop}
    (step : ∀ before after, Move before after → property before → property after)
    {before after : Ledger} (moves : Moves before after) (start : property before) :
    property after := by
  induction moves with
  | refl => exact start
  | tail _ move ih => exact step _ _ move ih

/-- Work of an engine is a chain of moves. -/
theorem moves_of_chain {desk after : Desk} (chain : Desk.Chain desk after) (log : HostLog)
    (issued : List Ticket) (known : Knows log after.pending issued) :
    Moves ⟨desk, log⟩ ⟨after, { log with issued }⟩ := by
  induction chain generalizing issued with
  | refl =>
      exact .single (.work desk issued
        (Desk.Step.restrict desk desk.slots fun _ _ isThere => isThere) known)
  | @tail middle last _ step ih =>
      have earlier := ih _ (knows_append log middle.pending)
      exact earlier.tail
        (.work last issued step (knows_append_of_subset known step.pending_subset))

end Ledger

namespace Session

open Ledger

/-! ### Steps of a host -/

theorem operate_moves (session : Session) (operation : HostOperation)
    (tidy : session.engine.store.Tidy) :
    Moves session.ledger (session.operate operation).ledger := by
  have performed := session.engine.perform_performed operation
  generalize answer : session.engine.perform operation = result at performed
  obtain ⟨after, _⟩ := result
  simp only [ledger, operate, answer]
  cases performed with
  | worked unremoved works =>
      rw [unremoved, List.append_nil]
      exact moves_of_chain works.chain session.log _ (knows_append _ _)
  | @removed repeatable index middle _ isRemoval removes works =>
      rw [isRemoval]
      have same : middle.desk = ⟨middle.store.slotAt?, middle.pending, session.engine.next⟩ := by
        rw [← removes.next]
        rfl
      have moves := moves_of_chain works.chain
        { session.log with
          issued := session.log.issued ++ middle.pending
          stranded := session.log.stranded ++
            session.log.strandedBy session.engine.store.slotAt? repeatable index } _
        (knows_append_of_subset (knows_append session.log after.pending)
          works.chain.pending_subset)
      rw [same] at moves
      exact .head (.remove repeatable index middle.store.slotAt? middle.pending
        (session.log.issued ++ middle.pending) (fun _ _ isThere => removes.slotAt? tidy isThere)
        removes.pending (knows_append _ _)) moves
  | @emptied middle _ unremoved empties works =>
      rw [unremoved, List.append_nil]
      have same : middle.desk = ⟨middle.store.slotAt?, [], middle.next⟩ := by
        rw [← empties.pending]
        rfl
      have moves := moves_of_chain works.chain session.log _
        (knows_append session.log after.pending)
      rw [same] at moves
      exact .head (.empty middle.store.slotAt? middle.next empties.later
        (fun _ _ isThere => empties.slotAt? isThere)) moves

theorem take_moves (session : Session) : Moves session.ledger session.take.ledger :=
  .single .take

theorem complete_moves (session : Session) (ticket : Ticket) (result : FetchResult)
    (issued : ticket ∈ session.log.issued) :
    Moves session.ledger (session.complete ticket result).ledger := by
  simp only [ledger, complete, Engine.completeFetch]
  cases taken : session.engine.store.complete ticket result with
  | none =>
      refine .single (.refuse ticket result issued ?_)
      exact Store.complete_eq_none taken
  | some store =>
      obtain ⟨slot, after, isThere, completed, replaced⟩ := Store.complete_eq_some taken
      exact .single (.deliver ticket result slot after store.slotAt? issued isThere completed
        replaced)

theorem mount_works (mounting : Engine.Mounting) :
    (Engine.unfolded mounting).Works (Engine.mount mounting) :=
  Engine.refreshDerived_works _ none

private theorem ledger_mount (mounting : Engine.Mounting) :
    (mount mounting).ledger =
      ⟨(Engine.mount mounting).desk,
        { HostLog.empty with issued := (Engine.mount mounting).pending }⟩ := rfl

private theorem knows_empty (pending : List Ticket) : Knows .empty pending pending := by
  intro ticket
  constructor
  · exact Or.inr
  · rintro (impossible | new)
    · cases impossible
    · exact new

private theorem moves_of_unfolded {mounting : Engine.Mounting} {engine : Engine}
    (works : (Engine.unfolded mounting).Works engine) :
    Moves .blank ⟨engine.desk, { HostLog.empty with issued := engine.pending }⟩ := by
  have empty : (Engine.unfolded mounting).desk = Ledger.blank.desk := by
    refine congrArg (fun slots => Desk.mk slots [] 1) ?_
    funext target
    cases target <;> rfl
  have chain := works.chain
  rw [empty] at chain
  exact moves_of_chain chain .empty _ (knows_empty _)

theorem mount_moves (mounting : Engine.Mounting) : Moves .blank (mount mounting).ledger := by
  rw [ledger_mount]
  exact moves_of_unfolded (mount_works mounting)

theorem step_moves (session : Session) (step : HostStep) (tidy : session.engine.store.Tidy)
    (allowed : session.Allows step) : Moves session.ledger (session.step step).ledger := by
  cases step with
  | operate operation => exact operate_moves session operation tidy
  | take => exact take_moves session
  | complete ticket result => exact complete_moves session ticket result allowed

/-! ### Sessions a host can get to -/

theorem Reachable.tidy {mounting : Engine.Mounting} {session : Session}
    (reachable : Reachable mounting session) : session.engine.store.Tidy := by
  induction reachable with
  | mounted =>
      exact (mount_works mounting).tidy ⟨Keyed.distinct_nil, Keyed.distinct_nil⟩
  | @stepped session step _ _ ih =>
      cases step with
      | operate operation => exact (session.engine.perform_performed operation).tidy ih
      | take => exact ih
      | complete ticket result =>
          simp only [Session.step, complete, Engine.completeFetch]
          cases taken : session.engine.store.complete ticket result with
          | none => exact ih
          | some store => exact Store.Tidy.complete ih taken

theorem Reachable.ledger {mounting : Engine.Mounting} {session : Session}
    (reachable : Reachable mounting session) (property : Ledger → Prop) (start : property .blank)
    (step : ∀ before after, Move before after → property before → property after) :
    property session.ledger := by
  induction reachable with
  | mounted => exact (mount_moves mounting).preserve step start
  | @stepped session taken reachable allowed ih =>
      exact (session.step_moves taken reachable.tidy allowed).preserve step ih

end Session

end DeclarativeForm
