import DeclarativeForm.Proofs.Fetch.Custody
import Mathlib.Data.List.Nodup

/-!
A host that settles. It takes the whole queue, performs it and completes every ticket before it
asks for anything else. Then no ticket is ever in its hands while slots are moved, so no slot loses
its ticket: each one that waits has its own in the queue. After settling nothing waits, and every
slot whose ticket was in the queue has taken the answer of that ticket. This needs that no
generation is queued twice, or an answer could be written over by another.
-/

set_option autoImplicit false

namespace DeclarativeForm

/-! ### Answers -/

def OptionsSlot.answer (slot : OptionsSlot) (ticket : Ticket) (result : FetchResult) :
    OptionsSlot :=
  (slot.complete ticket result).getD slot

theorem OptionsSlot.answer_stale {slot : OptionsSlot} {ticket : Ticket}
    (stale : ticket.generation ≠ slot.generation) (result : FetchResult) :
    slot.answer ticket result = slot := by
  rw [answer, (slot.complete_eq_none_iff ticket result).mpr stale, Option.getD_none]

theorem OptionsSlot.generation_answer (slot : OptionsSlot) (ticket : Ticket)
    (result : FetchResult) : (slot.answer ticket result).generation = slot.generation := by
  rw [answer]
  cases taken : slot.complete ticket result with
  | none => rfl
  | some completed => exact (complete_eq_some taken).2.1

def Store.answer (store : Store) (ticket : Ticket) (result : FetchResult) : Store :=
  (store.complete ticket result).getD store

theorem Store.Tidy.answer {store : Store} (tidy : store.Tidy) (ticket : Ticket)
    (result : FetchResult) : (store.answer ticket result).Tidy := by
  rw [Store.answer]
  cases taken : store.complete ticket result with
  | none => exact tidy
  | some after => exact tidy.complete taken

theorem Store.slotAt?_answer (store : Store) (ticket : Ticket) (result : FetchResult)
    (target : FetchTarget) :
    (store.answer ticket result).slotAt? target = (store.slotAt? target).map fun slot =>
      if target = ticket.target then slot.answer ticket result else slot := by
  rw [answer]
  cases taken : store.complete ticket result with
  | none =>
      rw [Option.getD_none]
      cases isThere : store.slotAt? target with
      | none => rfl
      | some slot =>
          rw [Option.map_some]
          split
          · rename_i here
            subst here
            rw [OptionsSlot.answer_stale (Ne.symm (complete_eq_none taken slot isThere))]
          · rfl
  | some after =>
      obtain ⟨slot, completed, isThere, answered, replaced⟩ := complete_eq_some taken
      rw [Option.getD_some, replaced target]
      by_cases here : target = ticket.target
      · subst here
        rw [if_pos rfl, isThere, Option.map_some, if_pos rfl, OptionsSlot.answer, answered,
          Option.getD_some]
      · simp only [if_neg here, Option.map_id']

def OptionsSlot.answerEach (target : FetchTarget) (slot : OptionsSlot)
    (answers : List (Ticket × FetchResult)) : OptionsSlot :=
  answers.foldl (fun slot answer =>
    if target = answer.1.target then slot.answer answer.1 answer.2 else slot) slot

namespace OptionsSlot

/-- Answers to tickets of other generations change nothing. -/
theorem answerEach_stale {target : FetchTarget} {slot : OptionsSlot}
    {answers : List (Ticket × FetchResult)}
    (stale : ∀ answer ∈ answers, answer.1.generation ≠ slot.generation) :
    answerEach target slot answers = slot := by
  induction answers with
  | nil => rfl
  | cons answer rest ih =>
      have later := ih fun other member => stale other (List.mem_cons_of_mem _ member)
      rw [answerEach, List.foldl_cons, answer_stale (stale answer List.mem_cons_self), ite_self]
      exact later

/-- If no two tickets share a generation, the answer of the current one is what counts. -/
theorem answerEach_current {target : FetchTarget} {slot : OptionsSlot}
    {answers : List (Ticket × FetchResult)}
    (distinct : (answers.map fun answer => answer.1.generation).Nodup)
    {answer : Ticket × FetchResult} (member : answer ∈ answers)
    (isTarget : target = answer.1.target)
    (current : answer.1.generation = slot.generation) :
    answerEach target slot answers = slot.answer answer.1 answer.2 := by
  induction answers with
  | nil => cases member
  | cons first rest ih =>
      obtain ⟨fresh, later⟩ := List.nodup_cons.mp distinct
      rw [answerEach, List.foldl_cons]
      rcases List.mem_cons.mp member with rfl | inRest
      · rw [if_pos isTarget]
        refine answerEach_stale fun other isOther same => fresh ?_
        rw [generation_answer, ← current] at same
        exact List.mem_map.mpr ⟨other, isOther, same⟩
      · have different : first.1.generation ≠ slot.generation := fun same =>
          fresh (List.mem_map.mpr ⟨answer, inRest, current.trans same.symm⟩)
        rw [answer_stale different, ite_self]
        exact ih later inRest

end OptionsSlot

/-! ### Settling -/

namespace Engine

def answers (engine : Engine) (tickets : List Ticket) : List (Ticket × FetchResult) :=
  tickets.map fun ticket =>
    (ticket, engine.functions.fetch engine.options.fetchLimit ticket)

def fetchNotices (engine : Engine) (tickets : List Ticket) : List Notice :=
  tickets.flatMap fun ticket => engine.functions.invokeNotices ticket.function

private theorem foldl_fetch (tickets : List Ticket) (engine : Engine)
    (results : List (Ticket × FetchResult)) :
    tickets.foldl (fun (engine, results) ticket =>
        let (engine, result) := engine.fetch ticket
        (engine, results ++ [(ticket, result)])) (engine, results) =
      (engine.note (engine.fetchNotices tickets), results ++ engine.answers tickets) := by
  induction tickets generalizing engine results with
  | nil =>
      rw [List.foldl_nil, note, fetchNotices, answers, List.flatMap_nil, List.map_nil,
        List.append_nil, List.append_nil]
  | cons ticket rest ih =>
      rw [List.foldl_cons]
      refine (ih _ _).trans ?_
      simp only [note, fetchNotices, answers, List.flatMap_cons, List.map_cons,
        List.append_assoc, List.singleton_append]

/-- Settling performs the whole queue first and then completes it. -/
theorem settle_eq (engine : Engine) :
    engine.settle = (engine.answers engine.pending).foldl
      (fun engine answer => (engine.completeFetch answer.1 answer.2).1)
      (engine.takePending.1.note (engine.fetchNotices engine.pending)) := by
  rw [settle]
  dsimp only [takePending]
  rw [foldl_fetch]
  rfl

theorem completeFetch_fst (engine : Engine) (ticket : Ticket) (result : FetchResult) :
    (engine.completeFetch ticket result).1.store = engine.store.answer ticket result ∧
      (engine.completeFetch ticket result).1.pending = engine.pending := by
  rw [completeFetch, Store.answer]
  cases engine.store.complete ticket result <;> exact ⟨rfl, rfl⟩

theorem pending_foldl_completeFetch (answers : List (Ticket × FetchResult)) (engine : Engine) :
    (answers.foldl (fun engine answer => (engine.completeFetch answer.1 answer.2).1)
      engine).pending = engine.pending := by
  induction answers generalizing engine with
  | nil => rfl
  | cons answer rest ih => exact (ih _).trans (engine.completeFetch_fst answer.1 answer.2).2

private theorem slotAt?_foldl_completeFetch (answers : List (Ticket × FetchResult))
    (engine : Engine) (target : FetchTarget) :
    (answers.foldl (fun engine answer => (engine.completeFetch answer.1 answer.2).1)
        engine).store.slotAt? target =
      (engine.store.slotAt? target).map fun slot => slot.answerEach target answers := by
  induction answers generalizing engine with
  | nil => exact Option.map_id'.symm
  | cons answer rest ih =>
      rw [List.foldl_cons, ih, (engine.completeFetch_fst answer.1 answer.2).1,
        Store.slotAt?_answer, Option.map_map]
      rfl

/-- Settling answers every slot with the whole queue, and adds no slots and drops none. -/
theorem slotAt?_settle (engine : Engine) (target : FetchTarget) :
    engine.settle.store.slotAt? target = (engine.store.slotAt? target).map fun slot =>
      slot.answerEach target (engine.answers engine.pending) := by
  rw [settle_eq]
  exact slotAt?_foldl_completeFetch _ _ target

end Engine

namespace Session

def completeEach (session : Session) (answers : List (Ticket × FetchResult)) : Session :=
  answers.foldl (fun session answer => session.complete answer.1 answer.2) session

def settle (session : Session) : Session :=
  let performed := session.engine.takePending.1.note
    (session.engine.fetchNotices session.engine.pending)
  completeEach ⟨performed, session.take.log⟩ (session.engine.answers session.engine.pending)

private theorem completeEach_log (answers : List (Ticket × FetchResult)) (session : Session) :
    (session.completeEach answers).log.handed = session.log.handed ∧
      (session.completeEach answers).log.stranded = session.log.stranded ∧
      (session.completeEach answers).log.answered =
        session.log.answered ++ answers.map Prod.fst := by
  induction answers generalizing session with
  | nil => exact ⟨rfl, rfl, (List.append_nil _).symm⟩
  | cons answer rest ih =>
      obtain ⟨handed, stranded, answered⟩ := ih (session.complete answer.1 answer.2)
      refine ⟨handed, stranded, answered.trans ?_⟩
      exact List.append_assoc session.log.answered [answer.1] _

private theorem completeEach_engine (answers : List (Ticket × FetchResult)) (session : Session) :
    (session.completeEach answers).engine = answers.foldl
      (fun engine answer => (engine.completeFetch answer.1 answer.2).1) session.engine := by
  induction answers generalizing session with
  | nil => rfl
  | cons answer rest ih => exact ih _

private theorem completeEach_moves (answers : List (Ticket × FetchResult)) (session : Session)
    (issued : ∀ answer ∈ answers, answer.1 ∈ session.log.issued) :
    Ledger.Moves session.ledger (session.completeEach answers).ledger := by
  induction answers generalizing session with
  | nil => exact .refl
  | cons answer rest ih =>
      refine (complete_moves session answer.1 answer.2 (issued _ List.mem_cons_self)).trans ?_
      exact ih _ fun other member => issued other (List.mem_cons_of_mem _ member)

private theorem completeEach_tidy (answers : List (Ticket × FetchResult)) (session : Session)
    (tidy : session.engine.store.Tidy) : (session.completeEach answers).engine.store.Tidy := by
  induction answers generalizing session with
  | nil => exact tidy
  | cons answer rest ih =>
      refine ih _ ?_
      have answered := (session.engine.completeFetch_fst answer.1 answer.2).1
      exact answered ▸ tidy.answer answer.1 answer.2

theorem settle_engine (session : Session) : session.settle.engine = session.engine.settle :=
  (completeEach_engine _ _).trans session.engine.settle_eq.symm

theorem settle_moves (session : Session)
    (issued : session.engine.pending ⊆ session.log.issued) :
    Ledger.Moves session.ledger session.settle.ledger := by
  have completed := completeEach_moves (session.engine.answers session.engine.pending)
    ⟨session.engine.takePending.1.note (session.engine.fetchNotices session.engine.pending),
      session.take.log⟩ fun answer member => by
        obtain ⟨ticket, isQueued, rfl⟩ := List.mem_map.mp member
        exact issued isQueued
  exact (take_moves session).trans completed

end Session

/-! ### Sessions of a host that settles -/

namespace Ledger

/-- No generation is queued twice. -/
def Distinct (ledger : Ledger) : Prop := (ledger.desk.pending.map Ticket.generation).Nodup

theorem Move.distinct {before after : Ledger} (move : Move before after)
    (accounted : Accounted before) (distinct : Distinct before) : Distinct after := by
  cases move with
  | work desk issued step known =>
      cases step with
      | issue ticket slot slots fresh current waiting requested options others =>
          unfold Distinct
          rw [List.map_append]
          refine List.nodup_append.mpr ⟨distinct, List.nodup_singleton _, ?_⟩
          intro generation isOld other isNew same
          obtain ⟨old, isQueued, rfl⟩ := List.mem_map.mp isOld
          have used := (accounted.used old (accounted.pending isQueued)).2
          rw [List.mem_singleton.mp isNew, fresh] at same
          omega
      | blank slots next later others => exact distinct
  | remove repeatable removed slots pending issued moved follows known =>
      subst follows
      refine List.pairwise_map.mpr (List.pairwise_filterMap.mpr ?_)
      refine (List.pairwise_map.mp distinct).imp fun different one isOne two isTwo => ?_
      obtain ⟨_, _, rfl⟩ := Option.map_eq_some_iff.mp isOne
      obtain ⟨_, _, rfl⟩ := Option.map_eq_some_iff.mp isTwo
      exact different
  | empty slots next later blank => exact List.nodup_nil
  | take => exact List.nodup_nil
  | deliver ticket result slot completed slots issued isThere taken replaces => exact distinct
  | refuse ticket result issued unwanted => exact distinct

/-- What is true of a ledger while the host holds no tickets and no slot has lost its own. -/
structure Served (ledger : Ledger) : Prop where
  accounted : ledger.Accounted
  custody : ledger.Custody
  distinct : ledger.Distinct
  answered : ledger.log.handed ⊆ ledger.log.answered
  whole : ledger.log.stranded = []

theorem Served.move {before after : Ledger} (served : Served before) (moves : Moves before after)
    (answered : after.log.handed ⊆ after.log.answered) (whole : after.log.stranded = []) :
    Served after := by
  let property (ledger : Ledger) : Prop :=
    ledger.Accounted ∧ ledger.Custody ∧ ledger.Distinct
  have step (before after : Ledger) (move : Move before after) (here : property before) :
      property after := by
    obtain ⟨accounted, custody, distinct⟩ := here
    exact ⟨move.accounted accounted, move.custody accounted custody,
      move.distinct accounted distinct⟩
  obtain ⟨accounted, custody, distinct⟩ : property after :=
    moves.preserve step ⟨served.accounted, served.custody, served.distinct⟩
  exact ⟨accounted, custody, distinct, answered, whole⟩

theorem served_blank : Served blank :=
  ⟨accounted_blank, custody_blank, List.nodup_nil, List.Subset.refl _, rfl⟩

/-- Every ticket that was handed out has been completed, so the host holds none. -/
theorem Served.isAnswered {ledger : Ledger} (served : Served ledger) {ticket : Ticket}
    (handed : ticket ∈ ledger.log.handed) : ledger.log.isAnswered ticket = true :=
  List.any_eq_true.mpr ⟨ticket, served.answered handed, by simp only [decide_true, Bool.and_self]⟩

theorem Served.strandedBy_eq_nil {ledger : Ledger} (served : Served ledger)
    (slots : FetchTarget → Option OptionsSlot) (repeatable : String) (removed : Nat) :
    ledger.log.strandedBy slots repeatable removed = [] := by
  refine List.eq_nil_iff_forall_not_mem.mpr fun generation member => ?_
  obtain ⟨ticket, handed, _, unanswered, _⟩ := mem_strandedBy.mp member
  rw [served.isAnswered handed] at unanswered
  cases unanswered

theorem Served.exists_queued {ledger : Ledger} (served : Served ledger) {target : FetchTarget}
    {slot : OptionsSlot} (isThere : ledger.desk.slots target = some slot)
    (waits : slot.loading = true) :
    ∃ ticket ∈ ledger.desk.pending, ticket.target = target ∧
      ticket.generation = slot.generation := by
  rcases (served.custody.slots target slot isThere).waiting waits with
    ⟨ticket, queued | handed, isTarget, current, unanswered⟩ | isLost
  · exact ⟨ticket, queued, isTarget, current⟩
  · rw [served.isAnswered handed] at unanswered
    cases unanswered
  · rw [served.whole] at isLost
    cases isLost

end Ledger

namespace Session

/-- The sessions of a host that fetches by settling only. -/
inductive Settling (mounting : Engine.Mounting) : Session → Prop
  | mounted : Settling mounting (mount mounting)
  | operated {session : Session} (operation : HostOperation)
      (settling : Settling mounting session) : Settling mounting (session.operate operation)
  | settled {session : Session} (settling : Settling mounting session) :
      Settling mounting session.settle

theorem operate_served {session : Session} (served : session.ledger.Served)
    (tidy : session.engine.store.Tidy) (operation : HostOperation) :
    (session.operate operation).ledger.Served := by
  refine served.move (operate_moves session operation tidy) served.answered ?_
  have before : session.log.stranded = [] := served.whole
  simp only [ledger, operate, before, List.nil_append]
  cases session.engine.removal? operation with
  | none => rfl
  | some removal => exact served.strandedBy_eq_nil _ _ _

theorem settle_served {session : Session} (served : session.ledger.Served) :
    session.settle.ledger.Served := by
  obtain ⟨handed, stranded, answered⟩ := completeEach_log
    (session.engine.answers session.engine.pending) ⟨_, session.take.log⟩
  refine served.move (settle_moves session served.accounted.pending) ?_
    (stranded.trans served.whole)
  change session.settle.log.handed ⊆ session.settle.log.answered
  have tickets : (session.engine.answers session.engine.pending).map Prod.fst =
      session.engine.pending := by
    rw [Engine.answers, List.map_map]
    exact List.map_id _
  rw [settle, handed, answered, tickets]
  exact List.append_subset.mpr
    ⟨List.Subset.trans served.answered (List.subset_append_left _ _),
      List.subset_append_right _ _⟩

theorem Settling.served {mounting : Engine.Mounting} {session : Session}
    (settling : Settling mounting session) :
    session.engine.store.Tidy ∧ session.ledger.Served := by
  induction settling with
  | mounted =>
      exact ⟨Reachable.mounted.tidy, Ledger.served_blank.move (mount_moves mounting)
        (List.Subset.refl _) rfl⟩
  | @operated session operation settling ih =>
      exact ⟨(session.engine.perform_performed operation).tidy ih.1,
        operate_served ih.2 ih.1 operation⟩
  | settled settling ih => exact ⟨completeEach_tidy _ _ ih.1, settle_served ih.2⟩

/-- As long as fetches are only performed by settling, each slot that waits has a ticket of its
generation in the queue, at its target. Settling empties the queue and leaves nothing waiting; every
slot with a ticket of its generation in the queue takes the answer of that ticket. -/
theorem Settling.queue_serves_waiting {mounting : Engine.Mounting} {session : Session}
    (settling : Settling mounting session) :
    (∀ target slot, session.engine.store.slotAt? target = some slot → slot.loading = true →
      ∃ ticket ∈ session.engine.pending, ticket.target = target ∧
        ticket.generation = slot.generation) ∧
    session.engine.settle.pending = [] ∧
    (∀ target slot, session.engine.settle.store.slotAt? target = some slot →
      slot.loading = false) ∧
    (∀ ticket ∈ session.engine.pending, ∀ slot,
      session.engine.store.slotAt? ticket.target = some slot →
      ticket.generation = slot.generation → ∃ completed,
        slot.complete ticket (session.engine.functions.fetch session.engine.options.fetchLimit
          ticket) = some completed ∧
        session.engine.settle.store.slotAt? ticket.target = some completed) := by
  obtain ⟨tidy, served⟩ := settling.served
  have after := settle_served served
  have drained : session.engine.settle.pending = [] := by
    rw [Engine.settle_eq]
    exact Engine.pending_foldl_completeFetch _ _
  refine ⟨fun _ _ => served.exists_queued, drained, fun target slot isThere => ?_,
    fun ticket queued slot isThere current => ?_⟩
  · by_contra waits
    rw [← settle_engine] at isThere drained
    obtain ⟨ticket, queued, _⟩ :=
      after.exists_queued isThere (Bool.of_not_eq_false waits)
    change ticket ∈ session.settle.engine.pending at queued
    rw [drained] at queued
    cases queued
  · obtain ⟨completed, taken⟩ := Option.ne_none_iff_exists'.mp fun none =>
      (slot.complete_eq_none_iff ticket
        (session.engine.functions.fetch session.engine.options.fetchLimit ticket)).mp none current
    refine ⟨completed, taken, ?_⟩
    have generations : ((session.engine.answers session.engine.pending).map
        fun answer => answer.1.generation).Nodup := by
      rw [Engine.answers, List.map_map]
      exact served.distinct
    have isAnswer := List.mem_map_of_mem (f := fun ticket : Ticket =>
      (ticket, session.engine.functions.fetch session.engine.options.fetchLimit ticket)) queued
    rw [Engine.slotAt?_settle, isThere, Option.map_some,
      OptionsSlot.answerEach_current generations isAnswer rfl current, OptionsSlot.answer, taken,
      Option.getD_some]

/-- The field of the item that is left takes the answer of the second ticket, which was moved with
it; the first ticket went with its item. -/
theorem twoItems_settled :
    ((mount twoItems).operate (.removeItem "items" 0)).engine.settle.store.slotAt?
      (.field "items[0].city") = some ⟨[], false, 2, some [], some []⟩ := by
  have settling : Settling twoItems ((mount twoItems).operate (.removeItem "items" 0)) :=
    .operated _ .mounted
  have queued : ⟨.field "items[0].city", 2, "options", []⟩ ∈
      ((mount twoItems).operate (.removeItem "items" 0)).engine.pending := by decide +kernel
  have isThere : ((mount twoItems).operate (.removeItem "items" 0)).engine.store.slotAt?
      (.field "items[0].city") = some ⟨[], true, 2, some [], none⟩ := by decide +kernel
  obtain ⟨_, _, _, applied⟩ := settling.queue_serves_waiting
  obtain ⟨completed, taken, after⟩ := applied _ queued _ isThere rfl
  rw [after, ← taken]
  decide +kernel

end Session

end DeclarativeForm
