import DeclarativeForm.Proofs.Options.History

/-!
Requests that issue nothing. The slot waits for what is requested, or its source keeps answers and
the slot holds the one for the arguments; but a source that keeps answers keeps failures as well.
After a fetch has failed the same arguments are not asked for again unless that is forced, although
the slot holds nothing and waits for nothing.
-/

set_option autoImplicit false

namespace DeclarativeForm.SlotRun

variable {run : SlotRun} {args : List Json}

def AwaitsFor (run : SlotRun) (args : List Json) : Prop :=
  run.slot.loading = true ∧ (run.slot.requestedFor == some args) = true

def HoldsFor (run : SlotRun) (args : List Json) : Prop :=
  (run.slot.loadedFor == some args) = true ∧
    ∃ ticket, lastTaken? run.history = some (ticket, .ok run.slot.options) ∧
      (ticket.args == args) = true

def FailedFor (run : SlotRun) (args : List Json) : Prop :=
  run.slot.loading = false ∧ ∃ ticket cause, currentTicket? run.history = some ticket ∧
    (ticket.args == args) = true ∧ lastTaken? run.history = some (ticket, .error cause)

namespace Consistent

theorem holdsFor (consistent : run.Consistent)
    (loaded : (run.slot.loadedFor == some args) = true) : run.HoldsFor args := by
  refine ⟨loaded, ?_⟩
  cases isLoaded : run.slot.loadedFor with
  | none =>
      rw [isLoaded] at loaded
      cases loaded
  | some own =>
      rw [isLoaded] at loaded
      obtain ⟨ticket, taken, same⟩ := consistent.holds own isLoaded
      exact ⟨ticket, taken, same ▸ loaded⟩

/-- A slot that waits for nothing holds what it was requested for, or the fetch has failed. -/
theorem holdsFor_or_failedFor (consistent : run.Consistent) (idle : run.slot.loading = false)
    (asked : (run.slot.requestedFor == some args) = true) :
    run.HoldsFor args ∨ run.FailedFor args := by
  rw [consistent.requested] at asked
  cases current : currentTicket? run.history with
  | none =>
      rw [current] at asked
      cases asked
  | some ticket =>
      rw [current] at asked
      rcases consistent.settled idle ticket current with loadedFor | ⟨_, cause, failed⟩
      · exact Or.inl (consistent.holdsFor (loadedFor ▸ asked))
      · exact Or.inr ⟨idle, ticket, cause, current, asked, failed⟩

theorem requestedFor_of_holdsFor (consistent : run.Consistent) (holds : run.HoldsFor args) :
    (run.slot.requestedFor == some args) = true := by
  rcases consistent.loaded with nothing | same
  · have loaded := holds.1
    rw [nothing] at loaded
    cases loaded
  · exact BEq.trans (BEq.symm same) holds.1

theorem requestedFor_of_failedFor (consistent : run.Consistent) (failed : run.FailedFor args) :
    (run.slot.requestedFor == some args) = true := by
  obtain ⟨_, ticket, _, current, same, _⟩ := failed
  rw [consistent.requested, current]
  exact same

end Consistent

theorem FailedFor.unserved (failed : run.FailedFor args) :
    ¬run.AwaitsFor args ∧ ¬run.HoldsFor args := by
  obtain ⟨idle, ticket, cause, _, _, taken⟩ := failed
  constructor
  · rintro ⟨waiting, _⟩
    cases waiting.symm.trans idle
  · rintro ⟨_, other, isTaken, _⟩
    cases isTaken.symm.trans taken

/-- When a request without force issues nothing, options for its arguments are on their way, or the
source keeps its answers and the slot holds those for the arguments, or else the fetch for the
arguments has failed, which the source keeps as well: then nothing is on its way and nothing is
held. In all these cases a request issues nothing. -/
theorem Reachable.unchanged_iff_served_or_failed (reachable : Reachable run) (target : FetchTarget)
    (source : OptionsSource) (args : List Json) :
    ((run.slot.request run.next target source (some args) false).2 = .unchanged ↔
      run.AwaitsFor args ∨
        source.caches = true ∧ (run.HoldsFor args ∨ run.FailedFor args)) ∧
    (run.FailedFor args → ¬run.AwaitsFor args ∧ ¬run.HoldsFor args) := by
  have consistent := reachable.consistent
  refine ⟨?_, FailedFor.unserved⟩
  rw [OptionsSlot.request_unchanged_iff]
  constructor
  · rintro ⟨asked, served⟩
    cases loading : run.slot.loading with
    | true => exact Or.inl ⟨loading, asked⟩
    | false =>
        rw [loading] at served
        have caches := served.resolve_left Bool.false_ne_true
        exact Or.inr ⟨caches, consistent.holdsFor_or_failedFor loading asked⟩
  · rintro (⟨waiting, asked⟩ | ⟨caches, holds | failed⟩)
    · exact ⟨asked, Or.inl waiting⟩
    · exact ⟨consistent.requestedFor_of_holdsFor holds, Or.inr caches⟩
    · exact ⟨consistent.requestedFor_of_failedFor failed, Or.inr caches⟩

/-- The states of a country could not be fetched. -/
def withoutStates : SlotRun :=
  ((start 1).forCountry "us").complete (ticketFor 1 "us") (.error "backend down")

/-- States that could not be fetched are not asked for again, although there are none and none are
on their way. -/
theorem failedStates_unasked :
    (withoutStates.slot.request withoutStates.next (.field "state") states (some [.string "us"])
        false).2 = .unchanged ∧
      ¬withoutStates.AwaitsFor [.string "us"] ∧ ¬withoutStates.HoldsFor [.string "us"] := by
  have reachable : Reachable withoutStates :=
    @Reachable.completed _ (ticketFor 1 "us") [] ⟨_, _, rfl⟩ _ (.requested _ _ _ _ (.started 1))
  have failed : withoutStates.FailedFor [.string "us"] :=
    ⟨rfl, ticketFor 1 "us", "backend down", rfl, BEq.rfl, rfl⟩
  obtain ⟨unchanged, unserved⟩ :=
    reachable.unchanged_iff_served_or_failed (.field "state") states [.string "us"]
  exact ⟨unchanged.mpr (Or.inr ⟨rfl, Or.inr failed⟩), unserved failed⟩

end DeclarativeForm.SlotRun
