import DeclarativeForm.Proofs.Fetch.Accounting
import DeclarativeForm.Proofs.Path.Weight

/-!
Who has the ticket that a slot waits for. It is in the queue or in the hands of the host, at the
target of the slot; or else the slot was moved by the removal of an item while the host had the
ticket, and then no ticket reaches it: the weight of its target is below that of every ticket of
its generation, and weights only go down.
-/

set_option autoImplicit false

namespace DeclarativeForm

def FetchTarget.weight : FetchTarget → Nat
  | .field path => keyWeight path
  | .flowStep path _ => keyWeight path

theorem FetchTarget.weight_reindex {target moved : FetchTarget} {repeatable : String}
    {removed : Nat} (moves : target.reindex repeatable removed = some moved) :
    moved = target ∨ moved.weight < target.weight := by
  cases target with
  | field path =>
      obtain ⟨key, landed, rfl⟩ := Option.map_eq_some_iff.mp moves
      rcases keyWeight_reindexKey landed with rfl | lighter
      · exact Or.inl rfl
      · exact Or.inr lighter
  | flowStep path step =>
      obtain ⟨key, landed, rfl⟩ := Option.map_eq_some_iff.mp moves
      rcases keyWeight_reindexKey landed with rfl | lighter
      · exact Or.inl rfl
      · exact Or.inr lighter

namespace Ledger

/-- The ticket of a waiting slot is in the queue or in the hands of the host. -/
def Outstanding (pending : List Ticket) (log : HostLog) (target : FetchTarget)
    (generation : Nat) : Prop :=
  ∃ ticket, (ticket ∈ pending ∨ ticket ∈ log.handed) ∧ ticket.target = target ∧
    ticket.generation = generation ∧ log.isAnswered ticket = false

structure Keeps (pending : List Ticket) (log : HostLog) (target : FetchTarget)
    (slot : OptionsSlot) : Prop where
  /-- Queued tickets follow their slots. -/
  queued : ∀ ticket ∈ pending, ticket.generation = slot.generation → ticket.target = target
  heavier : ∀ ticket ∈ log.issued, ticket.generation = slot.generation →
    target.weight ≤ ticket.target.weight
  waiting : slot.loading = true →
    Outstanding pending log target slot.generation ∨ slot.generation ∈ log.stranded
  /-- A slot that has lost its ticket waits, and is out of the reach of all tickets. -/
  lost : slot.generation ∈ log.stranded → slot.loading = true ∧
    ∀ ticket ∈ log.issued, ticket.generation = slot.generation →
      target.weight < ticket.target.weight

/-- Every waiting slot has its ticket or has lost it for good. -/
structure Custody (ledger : Ledger) : Prop where
  /-- What is queued was not handed out. -/
  apart : ∀ ticket ∈ ledger.desk.pending, ∀ other ∈ ledger.log.handed,
    ticket.generation ≠ other.generation
  /-- Only what was handed out can be lost. -/
  stranded : ∀ generation ∈ ledger.log.stranded,
    ∃ ticket ∈ ledger.log.handed, ticket.generation = generation
  /-- There is one slot at most for a ticket. -/
  unique : ∀ first one second two, ledger.desk.slots first = some one →
    ledger.desk.slots second = some two → one.generation = two.generation →
    (∃ ticket ∈ ledger.log.issued, ticket.generation = one.generation) → first = second
  slots : ∀ target slot, ledger.desk.slots target = some slot →
    Keeps ledger.desk.pending ledger.log target slot

theorem custody_blank : Custody blank where
  apart _ member := nomatch member
  stranded _ member := nomatch member
  unique _ _ _ _ isThere := nomatch isThere
  slots _ _ isThere := nomatch isThere

theorem Keeps.of_fresh {pending : List Ticket} {log : HostLog} {target : FetchTarget}
    {slot : OptionsSlot} (idle : slot.loading = false) (subset : pending ⊆ log.issued)
    (handed : log.handed ⊆ log.issued)
    (stranded : ∀ generation ∈ log.stranded, ∃ ticket ∈ log.handed, ticket.generation = generation)
    (fresh : ∀ ticket ∈ log.issued, ticket.generation ≠ slot.generation) :
    Keeps pending log target slot where
  queued ticket member same := absurd same (fresh ticket (subset member))
  heavier ticket member same := absurd same (fresh ticket member)
  waiting waits := by
    rw [idle] at waits
    cases waits
  lost isLost := by
    obtain ⟨ticket, member, same⟩ := stranded _ isLost
    exact absurd same (fresh ticket (handed member))

theorem Accounted.fresh_of_blank {ledger : Ledger} (accounted : Accounted ledger) {next : Nat}
    {slot : OptionsSlot} (blank : Desk.Blank ledger.desk.next next slot) :
    slot.loading = false ∧
      ∀ ticket ∈ ledger.log.issued, ticket.generation ≠ slot.generation := by
  obtain ⟨generation, rfl, range⟩ := blank
  refine ⟨rfl, ?_⟩
  intro ticket member
  have used := accounted.used ticket member
  change ticket.generation ≠ generation
  omega

/-! ### The moves -/

section Moves

variable {ledger : Ledger}

private theorem Keeps.same_issued {pending issued : List Ticket} {log : HostLog}
    {target : FetchTarget} {slot : OptionsSlot} (keeps : Keeps pending log target slot)
    (same : ∀ ticket, ticket ∈ issued → ticket ∈ log.issued) :
    Keeps pending { log with issued } target slot where
  queued := keeps.queued
  heavier ticket member := keeps.heavier ticket (same ticket member)
  waiting := keeps.waiting
  lost isLost :=
    ⟨(keeps.lost isLost).1, fun ticket member => (keeps.lost isLost).2 ticket (same ticket member)⟩

theorem blank_custody (accounted : Accounted ledger) (custody : Custody ledger)
    {slots : FetchTarget → Option OptionsSlot} {next : Nat} {issued : List Ticket}
    (others : ∀ target found, slots target = some found →
      ledger.desk.slots target = some found ∨ Desk.Blank ledger.desk.next next found)
    (known : Knows ledger.log ledger.desk.pending issued) :
    Custody ⟨⟨slots, ledger.desk.pending, next⟩, { ledger.log with issued }⟩ := by
  have same {ticket : Ticket} (member : ticket ∈ issued) : ticket ∈ ledger.log.issued :=
    (accounted.known_old known).mp member
  refine ⟨custody.apart, custody.stranded, ?_, ?_⟩
  · intro first one second two isFirst isSecond equal ⟨ticket, member, isOne⟩
    rcases others first one isFirst with oldFirst | blank
    · rcases others second two isSecond with oldSecond | blank
      · exact custody.unique first one second two oldFirst oldSecond equal
          ⟨ticket, same member, isOne⟩
      · exact absurd (isOne.trans equal) ((accounted.fresh_of_blank blank).2 ticket (same member))
    · exact absurd isOne ((accounted.fresh_of_blank blank).2 ticket (same member))
  · intro target found isThere
    rcases others target found isThere with old | blank
    · exact (custody.slots target found old).same_issued fun _ member => same member
    · obtain ⟨idle, fresh⟩ := accounted.fresh_of_blank blank
      have keeps : Keeps ledger.desk.pending ledger.log target found :=
        .of_fresh idle accounted.pending accounted.handed custody.stranded fresh
      exact keeps.same_issued fun _ member => same member

section Issue

variable {ticket : Ticket} {issued : List Ticket}

private theorem mem_queued {pending : List Ticket} {other : Ticket}
    (member : other ∈ pending ++ [ticket]) : other ∈ pending ∨ other = ticket := by
  rcases List.mem_append.mp member with waits | isNew
  · exact Or.inl waits
  · exact Or.inr (List.mem_singleton.mp isNew)

private theorem keeps_issued (accounted : Accounted ledger) (custody : Custody ledger)
    (fresh : ticket.generation = ledger.desk.next) {slot : OptionsSlot}
    (current : slot.generation = ledger.desk.next)
    (known : Knows ledger.log (ledger.desk.pending ++ [ticket]) issued) :
    Keeps (ledger.desk.pending ++ [ticket]) { ledger.log with issued } ticket.target slot := by
  have used {other : Ticket} (member : other ∈ ledger.log.issued) :
      other.generation < ledger.desk.next := (accounted.used other member).2
  refine ⟨?_, ?_, ?_, ?_⟩
  · intro other member same
    rcases mem_queued member with waits | rfl
    · have usedUp := used (accounted.pending waits)
      omega
    · rfl
  · intro other member same
    rcases (accounted.known_new known).mp member with isOld | rfl
    · have usedUp := used isOld
      omega
    · exact Nat.le_refl _
  · intro _
    refine Or.inl ⟨ticket, Or.inl (List.mem_append_right _ List.mem_cons_self), rfl,
      fresh.trans current.symm, ?_⟩
    refine List.any_eq_false.mpr ?_
    intro other member same
    have usedUp := used (accounted.answered member)
    simp only [Bool.and_eq_true, decide_eq_true_eq] at same
    omega
  · intro isLost
    obtain ⟨other, handed, same⟩ := custody.stranded _ isLost
    have usedUp := used (accounted.handed handed)
    omega

private theorem Keeps.after_issue (accounted : Accounted ledger) {target : FetchTarget}
    {slot : OptionsSlot} (keeps : Keeps ledger.desk.pending ledger.log target slot)
    (below : slot.generation < ticket.generation)
    (known : Knows ledger.log (ledger.desk.pending ++ [ticket]) issued) :
    Keeps (ledger.desk.pending ++ [ticket]) { ledger.log with issued } target slot := by
  refine ⟨?_, ?_, ?_, ?_⟩
  · intro other member same
    rcases mem_queued member with waits | rfl
    · exact keeps.queued other waits same
    · omega
  · intro other member same
    rcases (accounted.known_new known).mp member with isOld | rfl
    · exact keeps.heavier other isOld same
    · omega
  · intro waits
    rcases keeps.waiting waits with ⟨other, isHeld | isHeld, rest⟩ | isLost
    · exact Or.inl ⟨other, Or.inl (List.mem_append_left _ isHeld), rest⟩
    · exact Or.inl ⟨other, Or.inr isHeld, rest⟩
    · exact Or.inr isLost
  · intro isLost
    refine ⟨(keeps.lost isLost).1, ?_⟩
    intro other member same
    rcases (accounted.known_new known).mp member with isOld | rfl
    · exact (keeps.lost isLost).2 other isOld same
    · omega

theorem issue_custody (accounted : Accounted ledger) (custody : Custody ledger)
    {slot : OptionsSlot} {slots : FetchTarget → Option OptionsSlot}
    (fresh : ticket.generation = ledger.desk.next) (current : slot.generation = ledger.desk.next)
    (others : ∀ target found, slots target = some found →
      target = ticket.target ∧ found = slot ∨
        target ≠ ticket.target ∧ ledger.desk.slots target = some found)
    (known : Knows ledger.log (ledger.desk.pending ++ [ticket]) issued) :
    Custody ⟨⟨slots, ledger.desk.pending ++ [ticket], ledger.desk.next + 1⟩,
      { ledger.log with issued }⟩ := by
  have below {target : FetchTarget} {found : OptionsSlot}
      (isThere : ledger.desk.slots target = some found) : found.generation < ledger.desk.next :=
    (accounted.slots target found isThere).below
  refine ⟨?_, custody.stranded, ?_, ?_⟩
  · intro one member other handed
    rcases mem_queued member with waits | rfl
    · exact custody.apart one waits other handed
    · have usedUp := accounted.used other (accounted.handed handed)
      omega
  · intro first one second two isFirst isSecond equal ⟨other, member, isOne⟩
    rcases others first one isFirst with ⟨rfl, rfl⟩ | ⟨_, oldFirst⟩
    · rcases others second two isSecond with ⟨rfl, _⟩ | ⟨_, oldSecond⟩
      · rfl
      · have lower := below oldSecond
        omega
    · have lower := below oldFirst
      rcases others second two isSecond with ⟨_, rfl⟩ | ⟨_, oldSecond⟩
      · omega
      · rcases (accounted.known_new known).mp member with old | rfl
        · exact custody.unique first one second two oldFirst oldSecond equal ⟨other, old, isOne⟩
        · omega
  · intro target found isThere
    rcases others target found isThere with ⟨rfl, rfl⟩ | ⟨_, old⟩
    · exact keeps_issued accounted custody fresh current known
    · have lower : found.generation < ticket.generation := fresh ▸ below old
      exact (custody.slots target found old).after_issue accounted lower known

end Issue

/-! ### Removals -/

theorem mem_strandedBy {log : HostLog} {slots : FetchTarget → Option OptionsSlot}
    {repeatable : String} {removed generation : Nat} :
    generation ∈ log.strandedBy slots repeatable removed ↔
      ∃ ticket ∈ log.handed, ticket.generation = generation ∧ log.isAnswered ticket = false ∧
        (∃ slot, slots ticket.target = some slot ∧ slot.loading = true ∧
          slot.generation = ticket.generation) ∧
        ∃ target, ticket.target.reindex repeatable removed = some target ∧
          target ≠ ticket.target := by
  simp only [HostLog.strandedBy, HostLog.held, List.mem_map, List.mem_filter, Bool.and_eq_true,
    Bool.not_eq_true', HostLog.awaits, HostLog.isMoved]
  constructor
  · rintro ⟨ticket, ⟨⟨handed, unanswered⟩, awaited, isMoved⟩, same⟩
    refine ⟨ticket, handed, same, unanswered, ?_, ?_⟩
    · cases isThere : slots ticket.target with
      | none => simp only [isThere, Bool.false_eq_true] at awaited
      | some slot =>
          simp only [isThere, Bool.and_eq_true, beq_iff_eq] at awaited
          exact ⟨slot, rfl, awaited⟩
    · cases lands : ticket.target.reindex repeatable removed with
      | none => simp only [lands, Bool.false_eq_true] at isMoved
      | some target =>
          simp only [lands, decide_eq_true_eq] at isMoved
          exact ⟨target, rfl, isMoved⟩
  · rintro ⟨ticket, handed, same, unanswered, ⟨slot, isThere, waits, current⟩, target, lands, moved⟩
    refine ⟨ticket, ⟨⟨handed, unanswered⟩, ?_, ?_⟩, same⟩
    · simp only [isThere, waits, current, beq_self_eq_true, Bool.and_self]
    · simp only [lands, decide_eq_true_eq]
      exact moved

section Removal

variable {repeatable : String} {removed : Nat}

private theorem Keeps.moved_waiting (accounted : Accounted ledger) {old target : FetchTarget}
    {slot : OptionsSlot} (keeps : Keeps ledger.desk.pending ledger.log old slot)
    (isThere : ledger.desk.slots old = some slot)
    (lands : old.reindex repeatable removed = some target) (waits : slot.loading = true) :
    Outstanding (ledger.desk.pending.filterMap fun ticket => ticket.reindex repeatable removed)
        ledger.log target slot.generation ∨
      slot.generation ∈ ledger.log.stranded ++
        ledger.log.strandedBy ledger.desk.slots repeatable removed := by
  rcases keeps.waiting waits with ⟨ticket, place, isTarget, current, unanswered⟩ | isLost
  · subst old
    rcases place with queued | handed
    · refine Or.inl ⟨{ ticket with target }, Or.inl ?_, rfl, current, ?_⟩
      · refine List.mem_filterMap.mpr ⟨ticket, queued, ?_⟩
        simp only [Ticket.reindex, lands, Option.map_some]
      · refine List.any_eq_false.mpr ?_
        intro answer member same
        simp only [Bool.and_eq_true, decide_eq_true_eq] at same
        have heavier := keeps.heavier answer (accounted.answered member) (same.2.trans current)
        rw [same.1] at heavier
        rcases FetchTarget.weight_reindex lands with rfl | lighter
        · refine List.any_eq_false.mp unanswered answer member ?_
          simp only [Bool.and_eq_true, decide_eq_true_eq]
          exact same
        · omega
    · by_cases stays : target = ticket.target
      · exact Or.inl ⟨ticket, Or.inr handed, stays.symm, current, unanswered⟩
      · refine Or.inr (List.mem_append_right _ (mem_strandedBy.mpr ?_))
        exact ⟨ticket, handed, current, unanswered, ⟨slot, isThere, waits, current.symm⟩, target,
          lands, stays⟩
  · exact Or.inr (List.mem_append_left _ isLost)

private theorem Keeps.moved (accounted : Accounted ledger) (custody : Custody ledger)
    {old target : FetchTarget} {slot : OptionsSlot} {issued : List Ticket}
    (there : ledger.desk.slots old = some slot)
    (lands : old.reindex repeatable removed = some target)
    (known : Knows ledger.log
      (ledger.desk.pending.filterMap fun ticket => ticket.reindex repeatable removed) issued) :
    Keeps (ledger.desk.pending.filterMap fun ticket => ticket.reindex repeatable removed)
      { ledger.log with
        issued
        stranded := ledger.log.stranded ++
          ledger.log.strandedBy ledger.desk.slots repeatable removed } target slot := by
  have keeps := custody.slots old slot there
  have follows {ticket : Ticket} (member : ticket ∈
      ledger.desk.pending.filterMap fun ticket => ticket.reindex repeatable removed)
      (same : ticket.generation = slot.generation) : ticket.target = target := by
    obtain ⟨before, isOld, equal, _, landed⟩ := mem_of_mem_reindexed member
    rw [keeps.queued before isOld (equal.trans same), lands] at landed
    exact (Option.some.inj landed).symm
  have issuedBefore {ticket other : Ticket} (member : ticket ∈ issued)
      (handed : other ∈ ledger.log.handed) (same : ticket.generation = other.generation) :
      ticket ∈ ledger.log.issued := by
    rcases (known ticket).mp member with isOld | queued
    · exact isOld
    · obtain ⟨before, isOld, equal, _⟩ := mem_of_mem_reindexed queued
      exact absurd (equal.trans same) (custody.apart before isOld other handed)
  have lower : target.weight ≤ old.weight := by
    rcases FetchTarget.weight_reindex lands with rfl | lighter
    · exact Nat.le_refl _
    · exact Nat.le_of_lt lighter
  refine ⟨fun ticket => follows, ?_, keeps.moved_waiting accounted there lands, ?_⟩
  · intro ticket member same
    rcases (known ticket).mp member with isOld | queued
    · exact Nat.le_trans lower (keeps.heavier ticket isOld same)
    · exact Nat.le_of_eq (congrArg FetchTarget.weight (follows queued same).symm)
  · intro member
    rcases List.mem_append.mp member with isLost | isNew
    · refine ⟨(keeps.lost isLost).1, ?_⟩
      intro ticket isKnown same
      obtain ⟨other, handed, equal⟩ := custody.stranded _ isLost
      have isOld := issuedBefore isKnown handed (same.trans equal.symm)
      exact Nat.lt_of_le_of_lt lower ((keeps.lost isLost).2 ticket isOld same)
    · obtain ⟨other, handed, equal, _, ⟨slot', there', waits, current⟩, goal, goes, away⟩ :=
        mem_strandedBy.mp isNew
      have together := custody.unique old slot other.target slot' there there'
        (equal.symm.trans current.symm) ⟨other, accounted.handed handed, equal⟩
      subst old
      rw [there] at there'
      cases there'
      rw [lands] at goes
      cases goes
      refine ⟨waits, ?_⟩
      intro ticket isKnown same
      have isOld := issuedBefore isKnown handed (same.trans equal.symm)
      rcases FetchTarget.weight_reindex lands with stays | lighter
      · exact absurd stays away
      · exact Nat.lt_of_lt_of_le lighter (keeps.heavier ticket isOld same)

theorem remove_custody (accounted : Accounted ledger) (custody : Custody ledger)
    {slots : FetchTarget → Option OptionsSlot} {issued : List Ticket}
    (moved : ∀ target found, slots target = some found → ∃ old,
      old.reindex repeatable removed = some target ∧ ledger.desk.slots old = some found)
    (known : Knows ledger.log
      (ledger.desk.pending.filterMap fun ticket => ticket.reindex repeatable removed) issued) :
    Custody ⟨⟨slots, ledger.desk.pending.filterMap fun ticket => ticket.reindex repeatable removed,
        ledger.desk.next⟩,
      { ledger.log with
        issued
        stranded := ledger.log.stranded ++
          ledger.log.strandedBy ledger.desk.slots repeatable removed }⟩ := by
  refine ⟨?_, ?_, ?_, ?_⟩
  · intro ticket member other handed
    obtain ⟨old, isOld, same, _⟩ := mem_of_mem_reindexed member
    rw [← same]
    exact custody.apart old isOld other handed
  · intro generation member
    rcases List.mem_append.mp member with isLost | isNew
    · exact custody.stranded generation isLost
    · obtain ⟨ticket, handed, same, _⟩ := mem_strandedBy.mp isNew
      exact ⟨ticket, handed, same⟩
  · intro first one second two isFirst isSecond equal ⟨ticket, member, isOne⟩
    obtain ⟨oldFirst, landsFirst, thereFirst⟩ := moved first one isFirst
    obtain ⟨oldSecond, landsSecond, thereSecond⟩ := moved second two isSecond
    obtain ⟨old, isOld, same, _⟩ := accounted.known_moved known member
    have together := custody.unique oldFirst one oldSecond two thereFirst thereSecond equal
      ⟨old, isOld, same.trans isOne⟩
    rw [together, landsSecond] at landsFirst
    exact (Option.some.inj landsFirst).symm
  · intro target slot isThere
    obtain ⟨old, lands, there⟩ := moved target slot isThere
    exact .moved accounted custody there lands known

end Removal

/-! ### Completions -/

theorem isAnswered_complete (log : HostLog) (ticket other : Ticket) (result : FetchResult)
    (taken : Bool) :
    (log.complete ticket result taken).isAnswered other =
      (log.isAnswered other ||
        (decide (ticket.target = other.target) &&
          decide (ticket.generation = other.generation))) := by
  simp only [HostLog.isAnswered, HostLog.complete, List.any_append, List.any_cons, List.any_nil,
    Bool.or_false]

private theorem Keeps.complete {target : FetchTarget} {slot : OptionsSlot}
    (keeps : Keeps ledger.desk.pending ledger.log target slot) (ticket : Ticket)
    (result : FetchResult) (taken : Bool)
    (other : ticket.target = target → ticket.generation ≠ slot.generation) :
    Keeps ledger.desk.pending (ledger.log.complete ticket result taken) target slot where
  queued := keeps.queued
  heavier := keeps.heavier
  waiting waits := by
    rcases keeps.waiting waits with ⟨held, place, isTarget, current, unanswered⟩ | isLost
    · refine Or.inl ⟨held, place, isTarget, current, ?_⟩
      rw [isAnswered_complete, unanswered, Bool.false_or, Bool.and_eq_false_iff,
        decide_eq_false_iff_not, decide_eq_false_iff_not]
      by_cases same : ticket.target = held.target
      · rw [current]
        exact Or.inr (other (same.trans isTarget))
      · exact Or.inl same
    · exact Or.inr isLost
  lost := keeps.lost

theorem deliver_custody (custody : Custody ledger) {ticket : Ticket} {result : FetchResult}
    {slot completed : OptionsSlot} {slots : FetchTarget → Option OptionsSlot}
    (issued : ticket ∈ ledger.log.issued)
    (isThere : ledger.desk.slots ticket.target = some slot)
    (taken : slot.complete ticket result = some completed)
    (replaces : Replaces ledger.desk.slots ticket.target completed slots) :
    Custody ⟨{ ledger.desk with slots }, ledger.log.complete ticket result true⟩ := by
  obtain ⟨current, same, _, idle, _⟩ := OptionsSlot.complete_eq_some taken
  have origin {target : FetchTarget} {found : OptionsSlot} (there : slots target = some found) :
      ∃ before, ledger.desk.slots target = some before ∧ before.generation = found.generation := by
    rw [replaces target] at there
    split at there
    · rename_i here
      subst target
      cases there
      exact ⟨slot, isThere, same.symm⟩
    · exact ⟨found, there, rfl⟩
  refine ⟨custody.apart, custody.stranded, ?_, ?_⟩
  · intro first one second two isFirst isSecond equal ⟨other, member, isOne⟩
    obtain ⟨oldOne, thereFirst, sameOne⟩ := origin isFirst
    obtain ⟨oldTwo, thereSecond, sameTwo⟩ := origin isSecond
    exact custody.unique first oldOne second oldTwo thereFirst thereSecond
      (sameOne.trans (equal.trans sameTwo.symm)) ⟨other, member, isOne.trans sameOne.symm⟩
  · intro target found there
    change slots target = some found at there
    rw [replaces target] at there
    split at there
    · rename_i here
      subst target
      cases there
      have keeps := custody.slots ticket.target slot isThere
      refine ⟨?_, ?_, ?_, ?_⟩
      · rw [same]
        exact keeps.queued
      · rw [same]
        exact keeps.heavier
      · intro waits
        rw [idle] at waits
        cases waits
      · intro isLost
        rw [same] at isLost
        exact absurd ((keeps.lost isLost).2 ticket issued current) (Nat.lt_irrefl _)
    · rename_i elsewhere
      exact (custody.slots target found there).complete ticket result true fun here =>
        absurd here.symm elsewhere

end Moves

theorem Move.custody {before after : Ledger} (move : Move before after)
    (accounted : Accounted before) (custody : Custody before) : Custody after := by
  cases move with
  | work desk issued step known =>
      cases step with
      | issue ticket slot slots fresh current waiting requested options others =>
          exact issue_custody accounted custody fresh current others known
      | blank slots next later others => exact blank_custody accounted custody others known
  | remove repeatable removed slots pending issued moved follows known =>
      subst follows
      exact remove_custody accounted custody moved known
  | empty slots next later blank =>
      refine ⟨(fun _ member => nomatch member), custody.stranded, ?_, ?_⟩
      · intro first one second two isFirst isSecond equal ⟨ticket, member, isOne⟩
        exact absurd isOne ((accounted.fresh_of_blank (blank first one isFirst)).2 ticket member)
      · intro target slot isThere
        obtain ⟨idle, fresh⟩ := accounted.fresh_of_blank (blank target slot isThere)
        exact .of_fresh idle (List.nil_subset _) accounted.handed custody.stranded fresh
  | take =>
      refine ⟨(fun _ member => nomatch member), ?_, custody.unique, ?_⟩
      · intro generation member
        obtain ⟨ticket, handed, same⟩ := custody.stranded generation member
        exact ⟨ticket, List.mem_append_left _ handed, same⟩
      · intro target slot isThere
        have keeps := custody.slots target slot isThere
        refine ⟨(fun _ member => nomatch member), keeps.heavier, ?_, keeps.lost⟩
        intro waits
        rcases keeps.waiting waits with ⟨ticket, queued | handed, rest⟩ | isLost
        · exact Or.inl ⟨ticket, Or.inr (List.mem_append_right _ queued), rest⟩
        · exact Or.inl ⟨ticket, Or.inr (List.mem_append_left _ handed), rest⟩
        · exact Or.inr isLost
  | deliver ticket result slot completed slots issued isThere taken replaces =>
      exact deliver_custody custody issued isThere taken replaces
  | refuse ticket result issued unwanted =>
      refine ⟨custody.apart, custody.stranded, custody.unique, ?_⟩
      intro target slot isThere
      refine (custody.slots target slot isThere).complete ticket result false ?_
      intro here
      subst target
      exact (unwanted slot isThere).symm

end Ledger

namespace Session

/-- In every session a host can get to, every waiting slot has its ticket or has lost it. -/
theorem Reachable.custody {mounting : Engine.Mounting} {session : Session}
    (reachable : Reachable mounting session) : session.ledger.Custody := by
  have both : session.ledger.Accounted ∧ session.ledger.Custody :=
    reachable.ledger (fun ledger => ledger.Accounted ∧ ledger.Custody)
      ⟨Ledger.accounted_blank, Ledger.custody_blank⟩ fun _ _ move before =>
        ⟨move.accounted before.1, move.custody before.1 before.2⟩
  exact both.2

/-- When nothing is queued and everything that was handed out has been completed, a slot still
waits exactly when it was moved while the host had its ticket. -/
theorem Reachable.loading_iff_stranded {mounting : Engine.Mounting} {session : Session}
    (reachable : Reachable mounting session) (drained : session.engine.pending = [])
    (answered : ∀ ticket ∈ session.log.handed, ticket ∈ session.log.answered)
    {target : FetchTarget} {slot : OptionsSlot}
    (isThere : session.engine.store.slotAt? target = some slot) :
    slot.loading = true ↔ slot.generation ∈ session.log.stranded := by
  have keeps := reachable.custody.slots target slot isThere
  constructor
  · intro waits
    rcases keeps.waiting waits with ⟨ticket, queued | handed, _, _, unanswered⟩ | isLost
    · change ticket ∈ session.engine.pending at queued
      rw [drained] at queued
      cases queued
    · refine absurd ?_ (List.any_eq_false.mp unanswered ticket (answered ticket handed))
      simp only [decide_true, Bool.and_self]
    · exact isLost
  · intro isLost
    exact (keeps.lost isLost).1

def twoItems : Engine.Mounting :=
  .ofFields [.repeatable (.named "items") [.leaf (.fed "city" (.dependingOn []))]]
    (.object [("items", .array [.object [], .object []])])

/-- The first item is removed while the host has the tickets of both, and then both tickets are
completed. -/
def removalWhileFetching : List HostStep :=
  [.take, .operate (.removeItem "items" 0),
    .complete ⟨.field "items[0].city", 1, "options", []⟩ (.ok []),
    .complete ⟨.field "items[1].city", 2, "options", []⟩ (.ok [])]

deriving instance DecidableEq for OptionsSlot

/-- The field of the item that is left waits, although nothing is queued and every ticket has been
completed. -/
theorem twoItems_loading :
    ((mount twoItems).run removalWhileFetching).engine.pending = [] ∧
      ((mount twoItems).run removalWhileFetching).log.handed =
        ((mount twoItems).run removalWhileFetching).log.answered ∧
      ∃ slot, ((mount twoItems).run removalWhileFetching).engine.store.slotAt?
        (.field "items[0].city") = some slot ∧ slot.loading = true := by
  have honest : (mount twoItems).Honest removalWhileFetching := by decide +kernel
  have drained : ((mount twoItems).run removalWhileFetching).engine.pending = [] := by
    decide +kernel
  have answered : ((mount twoItems).run removalWhileFetching).log.handed =
      ((mount twoItems).run removalWhileFetching).log.answered := by decide +kernel
  have isThere : ((mount twoItems).run removalWhileFetching).engine.store.slotAt?
      (.field "items[0].city") = some ⟨[], true, 2, some [], none⟩ := by decide +kernel
  have isLost : 2 ∈ ((mount twoItems).run removalWhileFetching).log.stranded := by decide +kernel
  refine ⟨drained, answered, _, isThere, ?_⟩
  have reachable := Reachable.run .mounted honest
  exact (reachable.loading_iff_stranded drained (fun _ member => answered ▸ member) isThere).mpr
    isLost

end Session

end DeclarativeForm
