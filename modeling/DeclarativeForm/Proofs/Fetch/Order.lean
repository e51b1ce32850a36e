import DeclarativeForm.Proofs.Fetch.Settle

/-!
The order in which tickets are completed. An answer changes the slot of its target only, and of the
tickets for one target at most one has the generation of the slot; all others are refused, before
and after it. So answers commute. That different tickets for one target differ in their generations
holds because tickets that share one were once the same ticket: the removal of an item moves what is
queued, and changes nothing else about it.
-/

set_option autoImplicit false

namespace DeclarativeForm

/-! ### Changes of one entry -/

namespace Keyed

variable {α : Type}

def adjust (key : String) (change : α → α) : Keyed α → Keyed α
  | [] => []
  | (first, value) :: rest =>
    if first = key then (first, change value) :: rest else (first, value) :: adjust key change rest

theorem adjust_of_absent {key : String} {table : Keyed α} (absent : find? key table = none)
    (change : α → α) : adjust key change table = table := by
  induction table with
  | nil => rfl
  | cons entry rest ih =>
      obtain ⟨first, value⟩ := entry
      by_cases same : first = key
      · rw [find?, if_pos same] at absent
        cases absent
      · rw [find?, if_neg same] at absent
        rw [adjust, if_neg same, ih absent]

theorem adjust_of_found {key : String} {value : α} {table : Keyed α}
    (found : find? key table = some value) (change : α → α) :
    adjust key change table = put key (change value) table := by
  induction table with
  | nil => cases found
  | cons entry rest ih =>
      obtain ⟨first, old⟩ := entry
      by_cases same : first = key
      · rw [find?, if_pos same] at found
        rw [adjust, put, if_pos same, if_pos same, Option.some.inj found, same]
      · rw [find?, if_neg same] at found
        rw [adjust, put, if_neg same, if_neg same, ih found]

theorem adjust_comm {one two : String} {first second : α → α}
    (commute : one = two → ∀ value, first (second value) = second (first value))
    (table : Keyed α) :
    adjust one first (adjust two second table) = adjust two second (adjust one first table) := by
  induction table with
  | nil => rfl
  | cons entry rest ih =>
      obtain ⟨key, value⟩ := entry
      by_cases isOne : key = one
      · by_cases isTwo : key = two
        · have both := commute (isOne.symm.trans isTwo) value
          simp only [adjust, if_pos isOne, if_pos isTwo, both]
        · simp only [adjust, if_pos isOne, if_neg isTwo]
      · by_cases isTwo : key = two
        · simp only [adjust, if_neg isOne, if_pos isTwo]
        · simp only [adjust, if_neg isOne, if_neg isTwo, ih]

end Keyed

/-! ### Answers -/

/-- Two tickets that are not both current for a slot. -/
def Ticket.Rivals (one two : Ticket) : Prop :=
  one.target = two.target → one.generation ≠ two.generation

theorem OptionsSlot.answer_comm {one two : Ticket} (different : one.generation ≠ two.generation)
    (slot : OptionsSlot) (first second : FetchResult) :
    (slot.answer one first).answer two second = (slot.answer two second).answer one first := by
  by_cases current : one.generation = slot.generation
  · have stale : two.generation ≠ slot.generation := current ▸ different.symm
    have still : two.generation ≠ (slot.answer one first).generation := by
      rw [slot.generation_answer]
      exact stale
    rw [answer_stale still, answer_stale stale]
  · have still : one.generation ≠ (slot.answer two second).generation := by
      rw [slot.generation_answer]
      exact current
    rw [answer_stale current, answer_stale still]

def FlowState.answer (state : FlowState) (step : String) (ticket : Ticket)
    (result : FetchResult) : FlowState :=
  ⟨state.steps.adjust step fun current =>
    { current with slot := current.slot.answer ticket result }⟩

namespace Store

private theorem answer_field {ticket : Ticket} {path : String}
    (isTarget : ticket.target = .field path) (store : Store) (result : FetchResult) :
    store.answer ticket result =
      { store with slots := store.slots.adjust path fun slot => slot.answer ticket result } := by
  have completed : store.complete ticket result = store.completeSlot path ticket result := by
    rw [complete, isTarget]
  rw [answer, completed, completeSlot, slot?]
  cases found : store.slots.find? path with
  | none =>
      rw [Keyed.adjust_of_absent found]
      rfl
  | some slot =>
      rw [Keyed.adjust_of_found found, OptionsSlot.answer, Option.bind_eq_bind, Option.bind_some]
      cases slot.complete ticket result with
      | none => exact congrArg (fun slots => { store with slots }) (Keyed.put_eq_self found).symm
      | some after => rfl

private theorem answer_flowStep {ticket : Ticket} {path step : String}
    (isTarget : ticket.target = .flowStep path step) (store : Store) (result : FetchResult) :
    store.answer ticket result =
      { store with flows := store.flows.adjust path fun state =>
          state.answer step ticket result } := by
  rw [answer, complete, isTarget]
  simp only [flow?, FlowState.complete, FlowState.step?]
  cases found : store.flows.find? path with
  | none =>
      rw [Keyed.adjust_of_absent found]
      rfl
  | some state =>
      have same : store = { store with flows := store.flows.put path state } :=
        congrArg (fun flows => { store with flows }) (Keyed.put_eq_self found).symm
      rw [Keyed.adjust_of_found found, FlowState.answer, Option.bind_eq_bind, Option.bind_some]
      cases there : state.steps.find? step with
      | none =>
          rw [Keyed.adjust_of_absent there]
          exact same
      | some current =>
          rw [Keyed.adjust_of_found there, OptionsSlot.answer, Option.bind_eq_bind,
            Option.bind_some]
          cases current.slot.complete ticket result with
          | none =>
              rw [Option.getD_none, Keyed.put_eq_self there]
              exact same
          | some after => rfl

/-- The answers of tickets that are not both current for a slot can be given in either order. -/
theorem answer_comm {one two : Ticket} (rivals : one.Rivals two) (store : Store)
    (first second : FetchResult) :
    (store.answer one first).answer two second = (store.answer two second).answer one first := by
  cases oneTarget : one.target with
  | field path =>
      cases twoTarget : two.target with
      | field other =>
          rw [answer_field oneTarget, answer_field twoTarget, answer_field twoTarget,
            answer_field oneTarget]
          refine congrArg (fun slots => { store with slots }) (Keyed.adjust_comm ?_ store.slots)
          intro same slot
          have different : one.generation ≠ two.generation :=
            rivals (by rw [oneTarget, twoTarget, same])
          exact slot.answer_comm different first second
      | flowStep other step =>
          rw [answer_field oneTarget, answer_flowStep twoTarget, answer_flowStep twoTarget,
            answer_field oneTarget]
  | flowStep path step =>
      cases twoTarget : two.target with
      | field other =>
          rw [answer_flowStep oneTarget, answer_field twoTarget, answer_field twoTarget,
            answer_flowStep oneTarget]
      | flowStep other later =>
          rw [answer_flowStep oneTarget, answer_flowStep twoTarget, answer_flowStep twoTarget,
            answer_flowStep oneTarget]
          refine congrArg (fun flows => { store with flows }) (Keyed.adjust_comm ?_ store.flows)
          intro samePath state
          refine congrArg FlowState.mk (Keyed.adjust_comm ?_ state.steps)
          intro sameStep current
          have different : one.generation ≠ two.generation :=
            rivals (by rw [oneTarget, twoTarget, samePath, sameStep])
          exact congrArg (fun slot => { current with slot })
            (current.slot.answer_comm different first second)

def isCurrent (store : Store) (ticket : Ticket) : Bool :=
  match store.slotAt? ticket.target with
  | some slot => slot.generation == ticket.generation
  | none => false

theorem isCurrent_answer (store : Store) (ticket : Ticket) (result : FetchResult)
    (other : Ticket) : (store.answer ticket result).isCurrent other = store.isCurrent other := by
  rw [isCurrent, isCurrent, slotAt?_answer]
  cases store.slotAt? other.target with
  | none => rfl
  | some slot =>
      rw [Option.map_some]
      by_cases here : other.target = ticket.target
      · rw [if_pos here]
        exact congrArg (· == other.generation) (slot.generation_answer ticket result)
      · rw [if_neg here]

/-- What is taken is the answer of a current ticket. -/
theorem isSome_complete (store : Store) (ticket : Ticket) (result : FetchResult) :
    (store.complete ticket result).isSome = store.isCurrent ticket := by
  rw [isCurrent]
  cases taken : store.complete ticket result with
  | none =>
      cases isThere : store.slotAt? ticket.target with
      | none => rfl
      | some slot => exact (beq_false_of_ne (complete_eq_none taken slot isThere)).symm
  | some after =>
      obtain ⟨slot, completed, isThere, answered, _⟩ := complete_eq_some taken
      rw [isThere]
      exact (beq_iff_eq.mpr (OptionsSlot.complete_eq_some answered).1.symm).symm

end Store

/-! ### Tickets completed one after the other -/

namespace Engine

def completeEach (engine : Engine) : List (Ticket × FetchResult) → Engine × List Bool
  | [] => (engine, [])
  | (ticket, result) :: rest =>
    let (engine, taken) := engine.completeFetch ticket result
    let (engine, later) := engine.completeEach rest
    (engine, taken :: later)

/-- The engine after the answers of some tickets, where those named second were taken. -/
def answered (engine : Engine) (answers taken : List (Ticket × FetchResult)) : Engine :=
  { engine with
    store := answers.foldl (fun store answer => store.answer answer.1 answer.2) engine.store
    events := engine.events ++ taken.map fun answer => .optionsLoaded answer.1.target
    notices := engine.notices ++
      taken.flatMap fun answer => answer.1.completionNotices answer.2 }

theorem completeFetch_eq (engine : Engine) (ticket : Ticket) (result : FetchResult) :
    engine.completeFetch ticket result =
      (engine.answered [(ticket, result)]
          (if engine.store.isCurrent ticket then [(ticket, result)] else []),
        engine.store.isCurrent ticket) := by
  rw [← engine.store.isSome_complete ticket result, completeFetch]
  simp only [answered, List.foldl_cons, List.foldl_nil, Store.answer]
  cases engine.store.complete ticket result with
  | none => simp
  | some after => simp [note, emit]

/-- Of some tickets those that are current at first have their answers taken, and no others. -/
theorem completeEach_eq (answers : List (Ticket × FetchResult)) (engine : Engine) :
    engine.completeEach answers =
      (engine.answered answers (answers.filter fun answer => engine.store.isCurrent answer.1),
        answers.map fun answer => engine.store.isCurrent answer.1) := by
  induction answers generalizing engine with
  | nil => simp [completeEach, answered]
  | cons answer rest ih =>
      obtain ⟨ticket, result⟩ := answer
      have same (other : Ticket) :
          (engine.answered [(ticket, result)]
            (if engine.store.isCurrent ticket then [(ticket, result)] else [])).store.isCurrent
              other = engine.store.isCurrent other :=
        engine.store.isCurrent_answer ticket result other
      rw [completeEach, completeFetch_eq]
      simp only [ih, same]
      cases current : engine.store.isCurrent ticket <;> simp [answered, current]

/-- Two engines that tell of the same in different orders, and differ in nothing else. -/
structure Reordered (left right : Engine) : Prop where
  state : { left with events := right.events, notices := right.notices } = right
  events : left.events.Perm right.events
  notices : left.notices.Perm right.notices

theorem answered_reordered (engine : Engine)
    {left right leftTaken rightTaken : List (Ticket × FetchResult)}
    (store : left.foldl (fun store answer => store.answer answer.1 answer.2) engine.store =
      right.foldl (fun store answer => store.answer answer.1 answer.2) engine.store)
    (taken : leftTaken.Perm rightTaken) :
    Reordered (engine.answered left leftTaken) (engine.answered right rightTaken) where
  state := by simp only [answered, store]
  events := (taken.map _).append_left engine.events
  notices := (taken.flatMap_right _).append_left engine.notices

end Engine

/-! ### Tickets of one generation -/

namespace Ledger

/-- Tickets of one generation differ in their targets at most. -/
def Identified (ledger : Ledger) : Prop :=
  ∀ one ∈ ledger.log.issued, ∀ two ∈ ledger.log.issued, one.generation = two.generation →
    { one with target := two.target } = two

namespace Identified

variable {ledger : Ledger}

/-- Tickets that were moved still differ in their targets at most. -/
theorem moved (identified : Identified ledger) {desk : Desk} {log : HostLog}
    (earlier : ∀ ticket ∈ log.issued, ∃ old ∈ ledger.log.issued,
      { old with target := ticket.target } = ticket) : Identified ⟨desk, log⟩ := by
  intro one isOne two isTwo same
  obtain ⟨oldOne, wasOne, isMoved⟩ := earlier one isOne
  obtain ⟨oldTwo, wasTwo, isMovedToo⟩ := earlier two isTwo
  rw [← isMoved, ← isMovedToo] at same
  have before : { oldOne with target := oldTwo.target } = oldTwo :=
    identified oldOne wasOne oldTwo wasTwo same
  rw [← isMovedToo, ← before, ← isMoved]

theorem issued (identified : Identified ledger) {desk : Desk} {log : HostLog} {fresh : Ticket}
    (known : ∀ ticket ∈ log.issued, ticket ∈ ledger.log.issued ∨ ticket = fresh)
    (unused : ∀ ticket ∈ ledger.log.issued, ticket.generation ≠ fresh.generation) :
    Identified ⟨desk, log⟩ := by
  intro one isOne two isTwo same
  rcases known one isOne with oldOne | rfl
  · rcases known two isTwo with oldTwo | rfl
    · exact identified one oldOne two oldTwo same
    · exact absurd same (unused one oldOne)
  · rcases known two isTwo with oldTwo | rfl
    · exact absurd same.symm (unused two oldTwo)
    · rfl

end Identified

theorem Move.identified {before after : Ledger} (move : Move before after)
    (accounted : Accounted before) (identified : Identified before) : Identified after := by
  cases move with
  | work desk issued step known =>
      cases step with
      | issue ticket slot slots fresh current waiting requested options others =>
          refine identified.issued (fun _ member => (accounted.known_new known).mp member) ?_
          intro old isOld
          have used := (accounted.used old isOld).2
          rw [fresh]
          omega
      | blank slots next later others =>
          exact identified.moved fun ticket member =>
            ⟨ticket, (accounted.known_old known).mp member, rfl⟩
  | remove repeatable removed slots pending issued moved follows known =>
      subst follows
      refine identified.moved fun ticket member => ?_
      rcases (known ticket).mp member with old | queued
      · exact ⟨ticket, old, rfl⟩
      · obtain ⟨old, isOld, isMoved⟩ := List.mem_filterMap.mp queued
        obtain ⟨target, _, rfl⟩ := Option.map_eq_some_iff.mp isMoved
        exact ⟨old, accounted.pending isOld, rfl⟩
  | empty slots next later blank => exact identified
  | take => exact identified
  | deliver ticket result slot completed slots issued isThere taken replaces => exact identified
  | refuse ticket result issued unwanted => exact identified

end Ledger

namespace Session

variable {mounting : Engine.Mounting} {session : Session}

theorem Reachable.identified (reachable : Reachable mounting session) :
    session.ledger.Identified := by
  let property (ledger : Ledger) : Prop := ledger.Accounted ∧ ledger.Identified
  have step (before after : Ledger) (move : Ledger.Move before after) (here : property before) :
      property after := ⟨move.accounted here.1, move.identified here.1 here.2⟩
  have start : property .blank := ⟨Ledger.accounted_blank, fun _ isOne => nomatch isOne⟩
  exact (reachable.ledger property start step).2

/-- Different tickets for one target have different generations. -/
theorem Reachable.rivals (reachable : Reachable mounting session) {one two : Ticket}
    (isOne : one ∈ session.log.issued) (isTwo : two ∈ session.log.issued)
    (different : one ≠ two) : one.Rivals two := by
  intro sameTarget sameGeneration
  have same : { one with target := two.target } = two :=
    reachable.identified one isOne two isTwo sameGeneration
  rw [← sameTarget] at same
  exact different same

/-- Different tickets that were issued can be completed in any order. An answer is taken if its
ticket is current for the slot at its target, whatever was completed before it, and only then; and
but for the order in which the answers are told of the engine is the same. -/
theorem Reachable.completions_commute (reachable : Reachable mounting session)
    {left right : List (Ticket × FetchResult)}
    (issued : ∀ answer ∈ left, answer.1 ∈ session.log.issued)
    (distinct : (left.map Prod.fst).Nodup) (permuted : left.Perm right) :
    (session.engine.completeEach left).2 =
        left.map (fun answer => session.engine.store.isCurrent answer.1) ∧
      (session.engine.completeEach right).2 =
        right.map (fun answer => session.engine.store.isCurrent answer.1) ∧
      Engine.Reordered (session.engine.completeEach left).1
        (session.engine.completeEach right).1 := by
  have commute (one : Ticket × FetchResult) (isOne : one ∈ left) (two : Ticket × FetchResult)
      (isTwo : two ∈ left) (store : Store) :
      (store.answer one.1 one.2).answer two.1 two.2 =
        (store.answer two.1 two.2).answer one.1 one.2 := by
    by_cases same : one = two
    · rw [same]
    · have different : one.1 ≠ two.1 := fun sameTicket =>
        same (List.inj_on_of_nodup_map distinct isOne isTwo sameTicket)
      exact store.answer_comm (reachable.rivals (issued one isOne) (issued two isTwo) different)
        one.2 two.2
  have store : left.foldl (fun store answer => store.answer answer.1 answer.2)
      session.engine.store = right.foldl (fun store answer => store.answer answer.1 answer.2)
        session.engine.store := permuted.foldl_eq' commute _
  rw [Engine.completeEach_eq, Engine.completeEach_eq]
  exact ⟨rfl, rfl, session.engine.answered_reordered store (permuted.filter _)⟩

/-- Steps after which three tickets are issued: the country is chosen, and chosen again. -/
def italyThenFrance : List HostStep :=
  [.operate (.setValue "country" (.string "Italy")), .take,
    .operate (.setValue "country" (.string "France"))]

def italyThenFranceAnswers : List (Ticket × FetchResult) :=
  [(⟨.field "city", 4, "options", [.string "Italy"]⟩, .ok [⟨"rome", "Rome", none, none⟩]),
    (⟨.field "country", 1, "options", []⟩, .error "offline"),
    (⟨.field "city", 6, "options", [.string "France"]⟩, .ok [⟨"paris", "Paris", none, none⟩])]

/-- The cities of Italy are refused, in whatever order the three tickets are completed. -/
theorem italyThenFrance_commutes :
    (((mount countryAndCity).run italyThenFrance).engine.completeEach
        italyThenFranceAnswers).2 = [false, true, true] ∧
      (((mount countryAndCity).run italyThenFrance).engine.completeEach
        italyThenFranceAnswers.reverse).2 = [true, true, false] ∧
      Engine.Reordered
        (((mount countryAndCity).run italyThenFrance).engine.completeEach
          italyThenFranceAnswers).1
        (((mount countryAndCity).run italyThenFrance).engine.completeEach
          italyThenFranceAnswers.reverse).1 := by
  have reachable : Reachable countryAndCity ((mount countryAndCity).run italyThenFrance) :=
    .run .mounted (by decide +kernel)
  have issued : ∀ answer ∈ italyThenFranceAnswers,
      answer.1 ∈ ((mount countryAndCity).run italyThenFrance).log.issued := by decide +kernel
  have current : italyThenFranceAnswers.map (fun answer =>
      ((mount countryAndCity).run italyThenFrance).engine.store.isCurrent answer.1) =
        [false, true, true] := by decide +kernel
  generalize (mount countryAndCity).run italyThenFrance = session at *
  obtain ⟨left, right, reordered⟩ := reachable.completions_commute issued (by decide +kernel)
    italyThenFranceAnswers.reverse_perm.symm
  refine ⟨left.trans current, right.trans ?_, reordered⟩
  rw [List.map_reverse, current]
  rfl

end Session

end DeclarativeForm
