import DeclarativeForm.Proofs.Fetch.Ledger

/-!
The accounts of a ledger. Generations of tickets are used up, a slot of the generation of a ticket
is requested for its arguments, and the options of a slot were delivered for a ticket with the
arguments that the slot is requested for. Every move keeps the accounts in order.
-/

set_option autoImplicit false

namespace DeclarativeForm

namespace Ledger

structure Accounts (next : Nat) (issued : List Ticket) (delivered : List (Ticket × List Choice))
    (slot : OptionsSlot) : Prop where
  below : slot.generation < next
  requested : ∀ ticket ∈ issued, ticket.generation = slot.generation →
    slot.requestedFor = some ticket.args
  sound : slot.Sound
  origin : slot.options ≠ [] → ∃ ticket, (ticket, slot.options) ∈ delivered ∧
    (slot.requestedFor == some ticket.args) = true

structure Accounted (ledger : Ledger) : Prop where
  positive : 0 < ledger.desk.next
  pending : ledger.desk.pending ⊆ ledger.log.issued
  handed : ledger.log.handed ⊆ ledger.log.issued
  answered : ledger.log.answered ⊆ ledger.log.issued
  used : ∀ ticket ∈ ledger.log.issued,
    0 < ticket.generation ∧ ticket.generation < ledger.desk.next
  slots : ∀ target slot, ledger.desk.slots target = some slot →
    Accounts ledger.desk.next ledger.log.issued ledger.log.delivered slot

theorem accounted_blank : Accounted blank where
  positive := Nat.one_pos
  pending := List.Subset.refl _
  handed := List.Subset.refl _
  answered := List.Subset.refl _
  used _ member := nomatch member
  slots _ _ isThere := nomatch isThere

namespace Accounts

variable {next after : Nat} {issued known : List Ticket}
  {delivered taken : List (Ticket × List Choice)} {slot : OptionsSlot}

/-- The accounts of a slot stay in order when no ticket of its generation is added, unless for the
same arguments. -/
theorem mono (accounts : Accounts next issued delivered slot) (later : next ≤ after)
    (added : ∀ ticket ∈ known, ticket.generation = slot.generation →
      ∃ old ∈ issued, old.generation = ticket.generation ∧ old.args = ticket.args)
    (subset : delivered ⊆ taken) : Accounts after known taken slot where
  below := Nat.lt_of_lt_of_le accounts.below later
  requested := by
    intro ticket member same
    obtain ⟨old, isOld, generation, args⟩ := added ticket member same
    rw [← args]
    exact accounts.requested old isOld (generation.trans same)
  sound := accounts.sound
  origin := by
    intro filled
    obtain ⟨ticket, member, requested⟩ := accounts.origin filled
    exact ⟨ticket, subset member, requested⟩

theorem of_blank (blank : Desk.Blank next after slot) (later : next ≤ after) (positive : 0 < next)
    (used : ∀ ticket ∈ issued, 0 < ticket.generation ∧ ticket.generation < next) :
    Accounts after issued delivered slot := by
  obtain ⟨generation, rfl, range⟩ := blank
  refine ⟨?_, ?_, OptionsSlot.sound_ofGeneration generation, ?_⟩
  · change generation < after
    omega
  · intro ticket member same
    have usedUp := used ticket member
    change ticket.generation = generation at same
    omega
  · intro filled
    exact absurd rfl filled

theorem complete (accounts : Accounts next issued delivered slot) {ticket : Ticket}
    {result : FetchResult} {completed : OptionsSlot} (member : ticket ∈ issued)
    (isTaken : slot.complete ticket result = some completed) :
    Accounts next issued
      (match result with | .ok options => delivered ++ [(ticket, options)] | .error _ => delivered)
      completed := by
  obtain ⟨generation, same, requested, _, options⟩ := OptionsSlot.complete_eq_some isTaken
  have isFor : completed.requestedFor = some ticket.args := by
    rw [requested]
    exact accounts.requested ticket member generation
  refine ⟨same ▸ accounts.below, ?_, OptionsSlot.sound_of_requestedFor isFor, ?_⟩
  · intro other isIssued sameGeneration
    rw [requested]
    exact accounts.requested other isIssued (sameGeneration.trans same)
  · intro filled
    rcases options with nothing | rfl
    · exact absurd nothing filled
    · refine ⟨ticket, List.mem_append_right _ List.mem_cons_self, ?_⟩
      rw [isFor]
      exact BEq.rfl

end Accounts

/-- A ticket queued after a removal was queued before, and its target was moved. -/
theorem mem_of_mem_reindexed {pending : List Ticket} {repeatable : String} {removed : Nat}
    {ticket : Ticket}
    (member : ticket ∈ pending.filterMap fun ticket => ticket.reindex repeatable removed) :
    ∃ old ∈ pending, old.generation = ticket.generation ∧ old.args = ticket.args ∧
      old.target.reindex repeatable removed = some ticket.target := by
  obtain ⟨old, isOld, isMoved⟩ := List.mem_filterMap.mp member
  obtain ⟨target, lands, rfl⟩ := Option.map_eq_some_iff.mp isMoved
  exact ⟨old, isOld, rfl, rfl, lands⟩

namespace Accounted

variable {ledger : Ledger}

/-- The tickets known after a step that queues none. -/
theorem known_old (accounted : Accounted ledger) {issued : List Ticket}
    (known : Knows ledger.log ledger.desk.pending issued) {ticket : Ticket} :
    ticket ∈ issued ↔ ticket ∈ ledger.log.issued := by
  rw [known ticket]
  constructor
  · rintro (old | queued)
    · exact old
    · exact accounted.pending queued
  · exact Or.inl

/-- The tickets known after a step that queues one. -/
theorem known_new (accounted : Accounted ledger) {issued : List Ticket} {fresh : Ticket}
    (known : Knows ledger.log (ledger.desk.pending ++ [fresh]) issued) {ticket : Ticket} :
    ticket ∈ issued ↔ ticket ∈ ledger.log.issued ∨ ticket = fresh := by
  rw [known ticket, List.mem_append, List.mem_singleton]
  constructor
  · rintro (old | queued | isFresh)
    · exact Or.inl old
    · exact Or.inl (accounted.pending queued)
    · exact Or.inr isFresh
  · rintro (old | isFresh)
    · exact Or.inl old
    · exact Or.inr (Or.inr isFresh)

/-- A ticket known after a removal is one that was issued, at another target perhaps. -/
theorem known_moved (accounted : Accounted ledger) {issued : List Ticket} {repeatable : String}
    {removed : Nat} (known : Knows ledger.log
      (ledger.desk.pending.filterMap fun ticket => ticket.reindex repeatable removed) issued)
    {ticket : Ticket} (member : ticket ∈ issued) :
    ∃ old ∈ ledger.log.issued, old.generation = ticket.generation ∧ old.args = ticket.args := by
  rcases (known ticket).mp member with old | queued
  · exact ⟨ticket, old, rfl, rfl⟩
  · obtain ⟨old, isOld, generation, args, _⟩ := mem_of_mem_reindexed queued
    exact ⟨old, accounted.pending isOld, generation, args⟩

theorem blank_step (accounted : Accounted ledger) {slots : FetchTarget → Option OptionsSlot}
    {next : Nat} {issued : List Ticket} (later : ledger.desk.next ≤ next)
    (others : ∀ target found, slots target = some found →
      ledger.desk.slots target = some found ∨ Desk.Blank ledger.desk.next next found)
    (known : Knows ledger.log ledger.desk.pending issued) :
    Accounted ⟨⟨slots, ledger.desk.pending, next⟩, { ledger.log with issued }⟩ := by
  have same {ticket : Ticket} : ticket ∈ issued ↔ ticket ∈ ledger.log.issued :=
    accounted.known_old known
  refine ⟨Nat.lt_of_lt_of_le accounted.positive later,
    fun _ member => same.mpr (accounted.pending member),
    fun _ member => same.mpr (accounted.handed member),
    fun _ member => same.mpr (accounted.answered member), ?_, ?_⟩
  · intro ticket member
    have used := accounted.used ticket (same.mp member)
    exact ⟨used.1, Nat.lt_of_lt_of_le used.2 later⟩
  · intro target slot isThere
    rcases others target slot isThere with old | blank
    · refine (accounted.slots target slot old).mono later ?_ (List.Subset.refl _)
      intro ticket member _
      exact ⟨ticket, same.mp member, rfl, rfl⟩
    · exact .of_blank blank later accounted.positive fun ticket member =>
        accounted.used ticket (same.mp member)

/-- The accounts of a slot for which a ticket was just issued. -/
private theorem accounts_issued (accounted : Accounted ledger) {ticket : Ticket}
    {slot : OptionsSlot} {issued : List Ticket} (current : slot.generation = ledger.desk.next)
    (requested : slot.requestedFor = some ticket.args)
    (options : slot.options = [] ∨ ∃ before, ledger.desk.slots ticket.target = some before ∧
      slot.options = before.options ∧ (before.requestedFor == some ticket.args) = true)
    (known : Knows ledger.log (ledger.desk.pending ++ [ticket]) issued) :
    Accounts (ledger.desk.next + 1) issued ledger.log.delivered slot := by
  refine ⟨?_, ?_, OptionsSlot.sound_of_requestedFor requested, ?_⟩
  · rw [current]
    exact Nat.lt_succ_self _
  · intro other member same
    rcases (accounted.known_new known).mp member with old | rfl
    · have used := accounted.used other old
      omega
    · exact requested
  · intro filled
    rcases options with nothing | ⟨before, there, kept, asked⟩
    · exact absurd nothing filled
    · rw [kept] at filled
      obtain ⟨earlier, member, was⟩ := (accounted.slots _ before there).origin filled
      refine ⟨earlier, ?_, ?_⟩
      · rw [kept]
        exact member
      · rw [requested]
        exact BEq.trans (BEq.symm asked) was

theorem issue_step (accounted : Accounted ledger) {ticket : Ticket} {slot : OptionsSlot}
    {slots : FetchTarget → Option OptionsSlot} {issued : List Ticket}
    (fresh : ticket.generation = ledger.desk.next) (current : slot.generation = ledger.desk.next)
    (requested : slot.requestedFor = some ticket.args)
    (options : slot.options = [] ∨ ∃ before, ledger.desk.slots ticket.target = some before ∧
      slot.options = before.options ∧ (before.requestedFor == some ticket.args) = true)
    (others : ∀ target found, slots target = some found →
      target = ticket.target ∧ found = slot ∨
        target ≠ ticket.target ∧ ledger.desk.slots target = some found)
    (known : Knows ledger.log (ledger.desk.pending ++ [ticket]) issued) :
    Accounted ⟨⟨slots, ledger.desk.pending ++ [ticket], ledger.desk.next + 1⟩,
      { ledger.log with issued }⟩ := by
  have grown {other : Ticket} : other ∈ issued ↔ other ∈ ledger.log.issued ∨ other = ticket :=
    accounted.known_new known
  refine ⟨Nat.succ_pos _, fun other member => ?_,
    fun _ member => grown.mpr (Or.inl (accounted.handed member)),
    fun _ member => grown.mpr (Or.inl (accounted.answered member)), ?_, ?_⟩
  · exact (known other).mpr (Or.inr member)
  · intro other member
    rcases grown.mp member with old | rfl
    · have used := accounted.used other old
      exact ⟨used.1, Nat.lt_succ_of_lt used.2⟩
    · rw [fresh]
      exact ⟨accounted.positive, Nat.lt_succ_self _⟩
  · intro target found isThere
    rcases others target found isThere with ⟨_, rfl⟩ | ⟨_, old⟩
    · exact accounted.accounts_issued current requested options known
    · refine (accounted.slots target found old).mono (Nat.le_succ _) ?_ (List.Subset.refl _)
      intro other member same
      rcases grown.mp member with isOld | rfl
      · exact ⟨other, isOld, rfl, rfl⟩
      · have below := (accounted.slots target found old).below
        omega

theorem remove_step (accounted : Accounted ledger) {repeatable : String} {removed : Nat}
    {slots : FetchTarget → Option OptionsSlot} {issued : List Ticket} {stranded : List Nat}
    (moved : ∀ target found, slots target = some found → ∃ old,
      old.reindex repeatable removed = some target ∧ ledger.desk.slots old = some found)
    (known : Knows ledger.log
      (ledger.desk.pending.filterMap fun ticket => ticket.reindex repeatable removed) issued) :
    Accounted ⟨⟨slots, ledger.desk.pending.filterMap fun ticket =>
        ticket.reindex repeatable removed, ledger.desk.next⟩,
      { ledger.log with issued, stranded }⟩ := by
  refine ⟨accounted.positive, fun ticket member => (known ticket).mpr (Or.inr member),
    fun ticket member => (known ticket).mpr (Or.inl (accounted.handed member)),
    fun ticket member => (known ticket).mpr (Or.inl (accounted.answered member)), ?_, ?_⟩
  · intro ticket member
    obtain ⟨old, isOld, same, _⟩ := accounted.known_moved known member
    rw [← same]
    exact accounted.used old isOld
  · intro target slot isThere
    obtain ⟨old, _, there⟩ := moved target slot isThere
    exact (accounted.slots old slot there).mono (Nat.le_refl _)
      (fun _ member _ => accounted.known_moved known member) (List.Subset.refl _)

theorem deliver_step (accounted : Accounted ledger) {ticket : Ticket} {result : FetchResult}
    {slot completed : OptionsSlot} {slots : FetchTarget → Option OptionsSlot}
    (issued : ticket ∈ ledger.log.issued)
    (isThere : ledger.desk.slots ticket.target = some slot)
    (taken : slot.complete ticket result = some completed)
    (replaces : Replaces ledger.desk.slots ticket.target completed slots) :
    Accounted ⟨{ ledger.desk with slots }, ledger.log.complete ticket result true⟩ := by
  have grown : ledger.log.delivered ⊆ (ledger.log.complete ticket result true).delivered := by
    cases result with
    | ok options => exact List.subset_append_left _ _
    | error cause => exact List.Subset.refl _
  refine ⟨accounted.positive, accounted.pending, accounted.handed,
    List.append_subset.mpr ⟨accounted.answered, List.cons_subset.mpr ⟨issued, List.nil_subset _⟩⟩,
    accounted.used, ?_⟩
  intro target found there
  change slots target = some found at there
  rw [replaces target] at there
  split at there
  · cases there
    have accounts := (accounted.slots _ slot isThere).complete issued taken
    cases result with
    | ok options => exact accounts
    | error cause => exact accounts
  · exact (accounted.slots target found there).mono (Nat.le_refl _)
      (fun other member _ => ⟨other, member, rfl, rfl⟩) grown

end Accounted

theorem Move.accounted {before after : Ledger} (move : Move before after)
    (accounted : Accounted before) : Accounted after := by
  cases move with
  | work desk issued step known =>
      cases step with
      | issue ticket slot slots fresh current waiting requested options others =>
          exact accounted.issue_step fresh current requested options others known
      | blank slots next later others => exact accounted.blank_step later others known
  | remove repeatable removed slots pending issued moved follows known =>
      subst follows
      exact accounted.remove_step moved known
  | empty slots next later blank =>
      refine ⟨Nat.lt_of_lt_of_le accounted.positive later, List.nil_subset _, accounted.handed,
        accounted.answered, ?_, ?_⟩
      · intro ticket member
        have used := accounted.used ticket member
        exact ⟨used.1, Nat.lt_of_lt_of_le used.2 later⟩
      · intro target slot isThere
        exact .of_blank (blank target slot isThere) later accounted.positive accounted.used
  | take =>
      exact ⟨accounted.positive, List.nil_subset _,
        List.append_subset.mpr ⟨accounted.handed, accounted.pending⟩, accounted.answered,
        accounted.used, accounted.slots⟩
  | deliver ticket result slot completed slots issued isThere taken replaces =>
      exact accounted.deliver_step issued isThere taken replaces
  | refuse ticket result issued unwanted =>
      exact ⟨accounted.positive, accounted.pending, accounted.handed,
        List.append_subset.mpr
          ⟨accounted.answered, List.cons_subset.mpr ⟨issued, List.nil_subset _⟩⟩,
        accounted.used, accounted.slots⟩

end Ledger

theorem Session.Reachable.accounted {mounting : Engine.Mounting} {session : Session}
    (reachable : Reachable mounting session) : session.ledger.Accounted :=
  reachable.ledger Ledger.Accounted Ledger.accounted_blank fun _ _ move => move.accounted

end DeclarativeForm
