import DeclarativeForm.Proofs.Options.Slot

/-!
The history of a slot. Options are requested, the answers of the tickets that were issued come in,
in any order and as often as a host likes, and the slot is emptied in between; other slots use up
generations meanwhile. A ticket is current until something supersedes it. In every history the slot
takes the answers of its current ticket and no others, it is requested for what that ticket is for,
and it waits until that ticket is answered.
-/

set_option autoImplicit false

namespace DeclarativeForm

inductive SlotEvent
  | asked (args : Option (List Json)) (outcome : RequestOutcome)
  | answered (ticket : Ticket) (result : FetchResult) (taken : Bool)
  | emptied

namespace SlotEvent

/-- A request that issued a ticket or had an absent argument, and an emptying: none of the tickets
issued before is wanted any more. -/
def supersedes : SlotEvent → Bool
  | asked args outcome => args.isNone || outcome.ticket?.isSome
  | answered _ _ _ => false
  | emptied => true

def ticket? : SlotEvent → Option Ticket
  | asked _ outcome => outcome.ticket?
  | answered _ _ _ => none
  | emptied => none

def taken? : SlotEvent → Option (Ticket × FetchResult)
  | answered ticket result true => some (ticket, result)
  | _ => none

end SlotEvent

/-- A slot with the next unused generation and what happened to the slot, the last event first. -/
structure SlotRun where
  slot : OptionsSlot
  next : Nat
  history : List SlotEvent

namespace SlotRun

def start (next : Nat) : SlotRun := ⟨.empty, next, []⟩

def request (run : SlotRun) (target : FetchTarget) (source : OptionsSource)
    (args : Option (List Json)) (force : Bool) : SlotRun :=
  let (slot, outcome) := run.slot.request run.next target source args force
  ⟨slot, run.next + 1, .asked args outcome :: run.history⟩

def complete (run : SlotRun) (ticket : Ticket) (result : FetchResult) : SlotRun :=
  match run.slot.complete ticket result with
  | some slot => ⟨slot, run.next, .answered ticket result true :: run.history⟩
  | none => { run with history := .answered ticket result false :: run.history }

def reset (run : SlotRun) : SlotRun :=
  ⟨run.slot.reset run.next, run.next + 1, .emptied :: run.history⟩

def IssuedBefore (run : SlotRun) (ticket : Ticket) (later : List SlotEvent) : Prop :=
  ∃ args earlier, run.history = later ++ .asked args (.issued ticket) :: earlier

/-- The runs of a slot. Meanwhile generations are used up elsewhere, and answers of tickets of other
slots may come to this one. -/
inductive Reachable : SlotRun → Prop
  | started (next : Nat) : Reachable (start next)
  | elsewhere {run : SlotRun} (later : Nat) (grown : run.next ≤ later) (reachable : Reachable run) :
      Reachable { run with next := later }
  | requested {run : SlotRun} (target : FetchTarget) (source : OptionsSource)
      (args : Option (List Json)) (force : Bool) (reachable : Reachable run) :
      Reachable (run.request target source args force)
  | completed {run : SlotRun} {ticket : Ticket} {later : List SlotEvent}
      (issued : run.IssuedBefore ticket later) (result : FetchResult) (reachable : Reachable run) :
      Reachable (run.complete ticket result)
  | misdirected {run : SlotRun} {ticket : Ticket} (used : ticket.generation < run.next)
      (foreign : ticket.generation ≠ run.slot.generation) (result : FetchResult)
      (reachable : Reachable run) : Reachable (run.complete ticket result)
  | reset {run : SlotRun} (reachable : Reachable run) : Reachable run.reset

end SlotRun

/-! ### Reading a history -/

def currentTicket? : List SlotEvent → Option Ticket
  | [] => none
  | event :: earlier => if event.supersedes then event.ticket? else currentTicket? earlier

def lastTaken? (history : List SlotEvent) : Option (Ticket × FetchResult) :=
  history.findSome? SlotEvent.taken?

theorem SlotEvent.supersedes_issued (args : Option (List Json)) (ticket : Ticket) :
    (asked args (.issued ticket)).supersedes = true :=
  Bool.or_true _

theorem currentTicket?_of_supersedes {event : SlotEvent} (supersedes : event.supersedes = true)
    (earlier : List SlotEvent) : currentTicket? (event :: earlier) = event.ticket? :=
  if_pos supersedes

theorem currentTicket?_of_keeps {event : SlotEvent} (keeps : event.supersedes = false)
    (earlier : List SlotEvent) : currentTicket? (event :: earlier) = currentTicket? earlier := by
  rw [currentTicket?, keeps, if_neg Bool.false_ne_true]

theorem currentTicket?_append {later : List SlotEvent}
    (kept : ∀ event ∈ later, event.supersedes = false) (earlier : List SlotEvent) :
    currentTicket? (later ++ earlier) = currentTicket? earlier := by
  induction later with
  | nil => rfl
  | cons event rest ih =>
      rw [List.cons_append, currentTicket?_of_keeps (kept event List.mem_cons_self)]
      exact ih fun other member => kept other (List.mem_cons_of_mem _ member)

namespace SlotRun

variable {run after : SlotRun} {event : SlotEvent} {ticket : Ticket} {later : List SlotEvent}

theorem IssuedBefore.currentTicket?_eq (issued : run.IssuedBefore ticket later)
    (kept : ∀ event ∈ later, event.supersedes = false) :
    currentTicket? run.history = some ticket := by
  obtain ⟨args, earlier, split⟩ := issued
  rw [split, currentTicket?_append kept]
  exact currentTicket?_of_supersedes (SlotEvent.supersedes_issued args ticket) earlier

theorem exists_issuedBefore (current : currentTicket? run.history = some ticket) :
    ∃ later, run.IssuedBefore ticket later ∧ ∀ event ∈ later, event.supersedes = false := by
  obtain ⟨slot, next, history⟩ := run
  change currentTicket? history = some ticket at current
  induction history with
  | nil => cases current
  | cons event earlier ih =>
      cases supersedes : event.supersedes with
      | true =>
          rw [currentTicket?_of_supersedes supersedes] at current
          cases event with
          | asked args outcome =>
              cases outcome with
              | issued issued =>
                  cases current
                  exact ⟨[], ⟨args, earlier, rfl⟩, fun _ member => nomatch member⟩
              | unchanged => cases current
              | cleared => cases current
          | answered => cases current
          | emptied => cases current
      | false =>
          rw [currentTicket?_of_keeps supersedes] at current
          obtain ⟨later, ⟨args, before, split⟩, kept⟩ := ih current
          refine ⟨event :: later, ⟨args, before, congrArg (event :: ·) split⟩, ?_⟩
          exact List.forall_mem_cons.mpr ⟨supersedes, kept⟩

/-- What was issued after one more event: the event issued it, or it was issued before. -/
theorem IssuedBefore.cases_cons (grown : after.history = event :: run.history)
    (issued : after.IssuedBefore ticket later) :
    later = [] ∧ event.ticket? = some ticket ∧ event.supersedes = true ∨
      ∃ rest, later = event :: rest ∧ run.IssuedBefore ticket rest := by
  obtain ⟨args, earlier, split⟩ := issued
  rw [grown] at split
  cases later with
  | nil =>
      obtain ⟨isNew, _⟩ := List.cons.inj split
      subst isNew
      exact Or.inl ⟨rfl, rfl, SlotEvent.supersedes_issued args ticket⟩
  | cons first rest =>
      obtain ⟨same, before⟩ := List.cons.inj split
      exact Or.inr ⟨rest, congrArg (· :: rest) same.symm, args, earlier, before⟩

/-! ### Generations -/

/-- All generations are used up, and the slot has that of a ticket exactly as long as nothing
supersedes the ticket. -/
structure Stamped (run : SlotRun) : Prop where
  known : ∀ ticket later, run.IssuedBefore ticket later → ticket.generation < run.next
  answered : ∀ ticket result taken, .answered ticket result taken ∈ run.history →
    ticket.generation < run.next
  guarded : ∀ ticket later, run.IssuedBefore ticket later →
    (ticket.generation = run.slot.generation ↔ ∀ event ∈ later, event.supersedes = false)

namespace Stamped

theorem generation_eq (stamped : run.Stamped)
    (current : currentTicket? run.history = some ticket) :
    ticket.generation = run.slot.generation := by
  obtain ⟨later, issued, kept⟩ := exists_issuedBefore current
  exact (stamped.guarded ticket later issued).mpr kept

/-- A slot of a new generation takes none of the tickets that were issued before. -/
theorem supersede (stamped : run.Stamped) (supersedes : event.supersedes = true)
    {slot : OptionsSlot} (current : slot.generation = run.next)
    (own : ∀ ticket, event.ticket? = some ticket → ticket.generation = run.next) :
    Stamped ⟨slot, run.next + 1, event :: run.history⟩ where
  known ticket later issued := by
    rcases issued.cases_cons rfl with ⟨_, isNew, _⟩ | ⟨rest, _, before⟩
    · exact own ticket isNew ▸ Nat.lt_succ_self _
    · exact Nat.lt_succ_of_lt (stamped.known ticket rest before)
  answered ticket result taken member := by
    rcases List.mem_cons.mp member with same | before
    · rw [← same] at supersedes
      cases supersedes
    · exact Nat.lt_succ_of_lt (stamped.answered ticket result taken before)
  guarded ticket later issued := by
    rcases issued.cases_cons rfl with ⟨rfl, isNew, _⟩ | ⟨rest, rfl, before⟩
    · exact iff_of_true ((own ticket isNew).trans current.symm) fun _ member => nomatch member
    · have older := stamped.known ticket rest before
      refine iff_of_false (fun same => Nat.ne_of_lt older (same.trans current)) fun kept => ?_
      rw [kept event List.mem_cons_self] at supersedes
      cases supersedes

theorem keep (stamped : run.Stamped) (keeps : event.supersedes = false) {slot : OptionsSlot}
    (same : slot.generation = run.slot.generation) {next : Nat} (grown : run.next ≤ next)
    (known : ∀ ticket result taken, event = .answered ticket result taken →
      ticket.generation < run.next) :
    Stamped ⟨slot, next, event :: run.history⟩ where
  known ticket later issued := by
    rcases issued.cases_cons rfl with ⟨_, _, supersedes⟩ | ⟨rest, _, before⟩
    · rw [keeps] at supersedes
      cases supersedes
    · exact Nat.lt_of_lt_of_le (stamped.known ticket rest before) grown
  answered ticket result taken member := by
    rcases List.mem_cons.mp member with here | before
    · exact Nat.lt_of_lt_of_le (known ticket result taken here.symm) grown
    · exact Nat.lt_of_lt_of_le (stamped.answered ticket result taken before) grown
  guarded ticket later issued := by
    rcases issued.cases_cons rfl with ⟨_, _, supersedes⟩ | ⟨rest, rfl, before⟩
    · rw [keeps] at supersedes
      cases supersedes
    · rw [same, stamped.guarded ticket rest before, List.forall_mem_cons]
      exact (and_iff_right keeps).symm

end Stamped

/-! ### What every run keeps -/

/-- A slot is requested for what its current ticket is for and waits until that is answered; then it
holds what the answer brought. What it holds in between was loaded for the same arguments. -/
structure Consistent (run : SlotRun) : Prop extends Stamped run where
  requested : run.slot.requestedFor = (currentTicket? run.history).map Ticket.args
  waiting : run.slot.loading = true ↔ ∃ ticket, currentTicket? run.history = some ticket ∧
    ∀ result taken, .answered ticket result taken ∉ run.history
  settled : run.slot.loading = false → ∀ ticket, currentTicket? run.history = some ticket →
    run.slot.loadedFor = some ticket.args ∨
      run.slot.loadedFor = none ∧ ∃ cause, lastTaken? run.history = some (ticket, .error cause)
  loaded : run.slot.loadedFor = none ∨ (run.slot.loadedFor == run.slot.requestedFor) = true
  unloaded : run.slot.loadedFor = none → run.slot.options = []
  holds : ∀ args, run.slot.loadedFor = some args →
    ∃ ticket, lastTaken? run.history = some (ticket, .ok run.slot.options) ∧ ticket.args = args

namespace Consistent

theorem start (next : Nat) : (start next).Consistent where
  known _ _ issued := by
    obtain ⟨_, _, split⟩ := issued
    exact absurd split.symm (List.append_ne_nil_of_right_ne_nil _ (List.cons_ne_nil _ _))
  answered _ _ _ member := nomatch member
  guarded _ _ issued := by
    obtain ⟨_, _, split⟩ := issued
    exact absurd split.symm (List.append_ne_nil_of_right_ne_nil _ (List.cons_ne_nil _ _))
  requested := rfl
  waiting := iff_of_false Bool.false_ne_true fun ⟨_, impossible, _⟩ => nomatch impossible
  settled _ _ impossible := nomatch impossible
  loaded := Or.inl rfl
  unloaded _ := rfl
  holds _ impossible := nomatch impossible

theorem sound (consistent : run.Consistent) : run.slot.Sound := by
  intro unasked
  have unloaded : run.slot.loadedFor = none := by
    rcases consistent.loaded with nothing | same
    · exact nothing
    · simpa [unasked] using same
  refine ⟨Bool.eq_false_iff.mpr fun loading => ?_, consistent.unloaded unloaded, unloaded⟩
  obtain ⟨ticket, current, _⟩ := consistent.waiting.mp loading
  rw [consistent.requested, current] at unasked
  cases unasked

theorem emptied (consistent : run.Consistent) (supersedes : event.supersedes = true)
    (ticketless : event.ticket? = none) :
    Consistent ⟨.ofGeneration run.next, run.next + 1, event :: run.history⟩ where
  toStamped := consistent.supersede supersedes rfl fun ticket isNew => by
    rw [ticketless] at isNew
    cases isNew
  requested := by
    rw [currentTicket?_of_supersedes supersedes, ticketless]
    rfl
  waiting := by
    rw [currentTicket?_of_supersedes supersedes, ticketless]
    exact iff_of_false Bool.false_ne_true fun ⟨_, impossible, _⟩ => nomatch impossible
  settled := by
    rw [currentTicket?_of_supersedes supersedes, ticketless]
    exact fun _ _ impossible => nomatch impossible
  loaded := Or.inl rfl
  unloaded _ := rfl
  holds _ impossible := nomatch impossible

theorem kept (consistent : run.Consistent) (wanted : List Json) :
    Consistent ⟨run.slot, run.next + 1, .asked (some wanted) .unchanged :: run.history⟩ where
  toStamped := consistent.keep rfl rfl (Nat.le_succ _) fun _ _ _ same => nomatch same
  requested := consistent.requested
  waiting := by
    rw [currentTicket?_of_keeps rfl]
    simpa using consistent.waiting
  settled := consistent.settled
  loaded := consistent.loaded
  unloaded := consistent.unloaded
  holds := consistent.holds

theorem request (consistent : run.Consistent) (target : FetchTarget) (source : OptionsSource)
    (args : Option (List Json)) (force : Bool) :
    (run.request target source args force).Consistent := by
  have reached := run.slot.request_requested run.next target source args force
  have same := run.slot.request_requestedFor run.next target source args force
  have retains := run.slot.request_retains run.next target source args force consistent.sound
  unfold SlotRun.request
  generalize run.slot.request run.next target source args force = result
    at reached same retains ⊢
  obtain ⟨after, outcome⟩ := result
  cases reached with
  | kept wanted asked =>
      rw [asked]
      exact consistent.kept wanted
  | emptied outcome absent told =>
      rw [absent]
      refine consistent.emptied rfl ?_
      change outcome.ticket? = none
      have outcomes : outcome = if run.slot.holdsState then .cleared else .unchanged := told
      rw [outcomes]
      split <;> rfl
  | issued wanted after asked waiting current requested =>
      have supersedes := SlotEvent.supersedes_issued args
        ⟨target, run.next, source.function, wanted⟩
      refine ⟨consistent.supersede supersedes current ?_, ?_, ?_, ?_, ?_, ?_, ?_⟩
      · rintro ticket isNew
        cases isNew
        rfl
      · rw [currentTicket?_of_supersedes supersedes]
        exact requested
      · rw [currentTicket?_of_supersedes supersedes]
        -- The ticket is unanswered: its generation is above those of all answers so far.
        refine iff_of_true waiting ⟨_, rfl, fun result taken member => ?_⟩
        rcases List.mem_cons.mp member with impossible | before
        · cases impossible
        · exact Nat.lt_irrefl _ (consistent.answered _ result taken before)
      · intro idle
        cases waiting.symm.trans idle
      · rcases retains with ⟨forSame, _, loadedFor⟩ | ⟨_, loadedFor⟩
        · rw [loadedFor]
          refine consistent.loaded.imp_right fun loaded => ?_
          exact BEq.trans loaded (BEq.trans forSame (BEq.symm same))
        · exact Or.inl loadedFor
      · rcases retains with ⟨_, options, loadedFor⟩ | ⟨options, _⟩
        · rw [options, loadedFor]
          exact consistent.unloaded
        · exact fun _ => options
      · rcases retains with ⟨_, options, loadedFor⟩ | ⟨_, loadedFor⟩
        · rw [options, loadedFor]
          exact consistent.holds
        · rw [loadedFor]
          exact fun _ impossible => nomatch impossible

theorem refuse (consistent : run.Consistent) (known : ticket.generation < run.next)
    (stale : ticket.generation ≠ run.slot.generation) (result : FetchResult) :
    Consistent ⟨run.slot, run.next, .answered ticket result false :: run.history⟩ where
  toStamped := consistent.keep rfl rfl (Nat.le_refl _) fun other _ _ same => by
    cases same
    exact known
  requested := consistent.requested
  waiting := by
    rw [currentTicket?_of_keeps rfl]
    refine consistent.waiting.trans (exists_congr fun current => and_congr_right fun isCurrent =>
      forall_congr' fun result => forall_congr' fun taken => ?_)
    rw [List.mem_cons, not_or, iff_and_self]
    rintro _ same
    cases same
    exact stale (consistent.generation_eq isCurrent)
  settled := consistent.settled
  loaded := consistent.loaded
  unloaded := consistent.unloaded
  holds := consistent.holds

theorem take (consistent : run.Consistent) (issued : run.IssuedBefore ticket later)
    {result : FetchResult} {slot : OptionsSlot}
    (taken : run.slot.complete ticket result = some slot) :
    Consistent ⟨slot, run.next, .answered ticket result true :: run.history⟩ := by
  obtain ⟨generation, sameGeneration, requestedFor, idle, _⟩ := OptionsSlot.complete_eq_some taken
  have holds := OptionsSlot.complete_holds taken
  have isCurrent : currentTicket? run.history = some ticket :=
    issued.currentTicket?_eq ((consistent.guarded ticket later issued).mp generation)
  have asked := consistent.requested
  rw [isCurrent] at asked
  refine ⟨consistent.keep rfl sameGeneration (Nat.le_refl _) ?_, ?_, ?_, ?_, ?_, ?_, ?_⟩
  · intro other _ _ same
    cases same
    exact consistent.known ticket later issued
  · rw [currentTicket?_of_keeps rfl]
    exact requestedFor.trans consistent.requested
  · rw [currentTicket?_of_keeps rfl, isCurrent]
    refine iff_of_false (by simp [idle]) ?_
    rintro ⟨_, same, unanswered⟩
    cases same
    exact unanswered result true List.mem_cons_self
  · rw [currentTicket?_of_keeps rfl, isCurrent]
    rintro _ _ same
    cases same
    rcases holds with ⟨_, loadedFor⟩ | ⟨⟨cause, rfl⟩, _, loadedFor⟩
    · exact Or.inl loadedFor
    · exact Or.inr ⟨loadedFor, cause, rfl⟩
  · rcases holds with ⟨_, loadedFor⟩ | ⟨_, _, loadedFor⟩
    · rw [loadedFor, requestedFor, asked]
      exact Or.inr BEq.rfl
    · exact Or.inl loadedFor
  · rcases holds with ⟨_, loadedFor⟩ | ⟨_, nothing, _⟩
    · rw [loadedFor]
      exact fun impossible => nomatch impossible
    · exact fun _ => nothing
  · rcases holds with ⟨rfl, loadedFor⟩ | ⟨_, _, loadedFor⟩
    · rw [loadedFor]
      rintro _ same
      cases same
      exact ⟨ticket, rfl, rfl⟩
    · rw [loadedFor]
      exact fun _ impossible => nomatch impossible

theorem complete (consistent : run.Consistent) (issued : run.IssuedBefore ticket later)
    (result : FetchResult) : (run.complete ticket result).Consistent := by
  unfold SlotRun.complete
  cases taken : run.slot.complete ticket result with
  | none =>
      have stale := (run.slot.complete_eq_none_iff ticket result).mp taken
      exact consistent.refuse (consistent.known ticket later issued) stale result
  | some slot => exact consistent.take issued taken

end Consistent

theorem Reachable.consistent (reachable : Reachable run) : run.Consistent := by
  induction reachable with
  | started next => exact .start next
  | elsewhere next grown _ ih =>
      refine ⟨⟨fun ticket later issued => ?_, fun ticket result taken member => ?_, ih.guarded⟩,
        ih.requested, ih.waiting, ih.settled, ih.loaded, ih.unloaded, ih.holds⟩
      · exact Nat.lt_of_lt_of_le (ih.known ticket later issued) grown
      · exact Nat.lt_of_lt_of_le (ih.answered ticket result taken member) grown
  | requested target source args force _ ih => exact ih.request target source args force
  | completed issued result _ ih => exact ih.complete issued result
  | @misdirected run ticket used foreign result _ ih =>
      have refused := (run.slot.complete_eq_none_iff ticket result).mpr foreign
      rw [SlotRun.complete, refused]
      exact ih.refuse used foreign result
  | reset _ ih => exact ih.emptied rfl rfl

/-- In every run the answer of a ticket is taken exactly when no event since its issue supersedes
it. What was loaded was loaded for the arguments of the last request; options that are there are
those of the answer taken last; a slot that was requested for nothing holds nothing and waits for
nothing. A slot waits exactly when its current ticket was never answered, and a source that keeps
its answers is asked again exactly for other arguments. -/
theorem Reachable.takes_current_only (reachable : Reachable run) :
    (∀ later args ticket earlier result,
      run.history = later ++ .asked args (.issued ticket) :: earlier →
        ((run.slot.complete ticket result).isSome = true ↔
          ∀ event ∈ later, event.supersedes = false)) ∧
    (run.slot.loadedFor = none ∨ (run.slot.loadedFor == run.slot.requestedFor) = true) ∧
    (run.slot.options ≠ [] → (run.slot.loadedFor == run.slot.requestedFor) = true ∧
      ∃ ticket, lastTaken? run.history = some (ticket, .ok run.slot.options)) ∧
    (run.slot.requestedFor = none → run.slot.options = [] ∧ run.slot.loading = false) ∧
    (run.slot.loading = true ↔ ∃ ticket, currentTicket? run.history = some ticket ∧
      ∀ result taken, .answered ticket result taken ∉ run.history) ∧
    (∀ target source args, source.caches = true →
      ((run.slot.request run.next target source (some args) false).2.ticket?.isSome = true ↔
        (run.slot.requestedFor == some args) = false)) := by
  have consistent := reachable.consistent
  refine ⟨?_, consistent.loaded, ?_, ?_, consistent.waiting, ?_⟩
  · intro later args ticket earlier result split
    rw [← consistent.guarded ticket later ⟨args, earlier, split⟩, Option.isSome_iff_ne_none, Ne,
      OptionsSlot.complete_eq_none_iff, Classical.not_not]
  · intro filled
    have isLoaded : run.slot.loadedFor ≠ none := fun nothing => filled (consistent.unloaded nothing)
    obtain ⟨args, loadedFor⟩ := Option.ne_none_iff_exists'.mp isLoaded
    obtain ⟨ticket, taken, _⟩ := consistent.holds args loadedFor
    exact ⟨consistent.loaded.resolve_left isLoaded, ticket, taken⟩
  · intro unasked
    obtain ⟨idle, nothing, _⟩ := consistent.sound unasked
    exact ⟨nothing, idle⟩
  · intro target source args caches
    exact run.slot.request_issues_iff run.next target source args caches

def states : OptionsSource := ⟨"getStates", some (.one "country"), [], none⟩

def forCountry (run : SlotRun) (country : String) : SlotRun :=
  run.request (.field "state") states (some [.string country]) false

def ticketFor (generation : Nat) (country : String) : Ticket :=
  ⟨.field "state", generation, "getStates", [.string country]⟩

/-- The country is changed before the states of the first one come in. -/
def inCanada : SlotRun :=
  (((start 1).forCountry "us").forCountry "ca").complete (ticketFor 2 "ca")
    (.ok [⟨"on", "Ontario", none, none⟩])

theorem inCanada_reachable : Reachable inCanada :=
  @Reachable.completed _ (ticketFor 2 "ca") [] ⟨_, _, rfl⟩ _
    (.requested _ _ _ _ (.requested _ _ _ _ (.started 1)))

/-- Late states of the first country are refused and those of the second one stay. -/
theorem americanStates_refused :
    (∀ result, (inCanada.slot.complete (ticketFor 1 "us") result).isSome = false) ∧
      (inCanada.slot.loadedFor == inCanada.slot.requestedFor) = true ∧
      lastTaken? inCanada.history = some (ticketFor 2 "ca", .ok inCanada.slot.options) ∧
      inCanada.slot.loading = false := by
  obtain ⟨guards, _, loaded, _, waits, _⟩ := inCanada_reachable.takes_current_only
  have filled : inCanada.slot.options ≠ [] := List.cons_ne_nil _ _
  refine ⟨fun result => Bool.eq_false_iff.mpr fun taken => ?_, (loaded filled).1, rfl, ?_⟩
  · have kept := (guards [_, _] _ (ticketFor 1 "us") [] result rfl).mp taken
    exact Bool.noConfusion (kept _ (List.mem_cons_of_mem _ List.mem_cons_self))
  · refine Bool.eq_false_iff.mpr fun waiting => ?_
    obtain ⟨ticket, current, unanswered⟩ := waits.mp waiting
    cases current
    exact unanswered _ _ List.mem_cons_self

end SlotRun

end DeclarativeForm
