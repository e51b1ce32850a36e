import DeclarativeForm.Proofs.Reset.Match
import DeclarativeForm.Proofs.Sync.Current

/-!
A reset form is as good as a new one. The slots that a reset leaves behind hold nothing, so the
form and a newly mounted one match before anything is derived, and they are brought up to date in
the same way. The generations of those slots are new, and so are all that come after them; a ticket
of the time before has an old one, and no slot ever waits for it again.
-/

set_option autoImplicit false

namespace DeclarativeForm

/-- What the host sees of a form is what it sees of one that was just mounted. The tickets in the
two queues differ in their generations only. -/
structure Engine.AsMounted (engine : Engine) (mounting : Mounting) : Prop where
  values : engine.values = (mount mounting).values
  errors : engine.store.errors = [] ∧ (mount mounting).store.errors = []
  isDirty : engine.store.isDirty = (mount mounting).store.isDirty
  flows : Keyed.Related FlowState.Matches engine.store.flows (mount mounting).store.flows
  fieldOptions : ∀ text, engine.fieldOptions text = (mount mounting).fieldOptions text
  isLoading : ∀ text, engine.isLoading text = (mount mounting).isLoading text
  pending : QueuesMatch engine.pending (mount mounting).pending
  currentStep : engine.navigator.current = (mount mounting).navigator.current
  status : engine.status = (mount mounting).status
  openDropdown : engine.store.openDropdown = (mount mounting).store.openDropdown
  shownPasswords : engine.store.shownPasswords = (mount mounting).store.shownPasswords
  submitting : engine.store.submitting = (mount mounting).store.submitting

namespace Engine

/-! ### What engines that match show -/

namespace Matches

variable {left right : Engine}

theorem isDirty (same : left.Matches right) : left.store.isDirty = right.store.isDirty := by
  simp only [Store.isDirty, same.store.values, same.store.initial]

theorem fieldOptions (same : left.Matches right) (text : String) :
    left.fieldOptions text = right.fieldOptions text := by
  have located : left.locate text = right.locate text := by
    simp only [locate, same.form]
  simp only [Engine.fieldOptions, located]
  cases right.locate text with
  | error rejection => rfl
  | ok found =>
      obtain ⟨path, node, context⟩ := found
      cases node with
      | leaf field =>
          have slots := (same.store.slots path.text).options
          simp only [Store.slotOrEmpty] at slots
          dsimp only
          generalize left.store.slot? path.text = one at slots ⊢
          generalize right.store.slot? path.text = two at slots ⊢
          cases one <;> cases two
          all_goals exact congrArg (fun offered =>
            if field.optionsSource.isNone = true then field.options else offered) slots
      | group head fields => rfl
      | repeatable head template => rfl
      | flow flow => rfl

theorem isLoading (same : left.Matches right) (text : String) :
    left.isLoading text = right.isLoading text := by
  simp only [Engine.isLoading]
  cases FieldPath.parse text with
  | error fault => rfl
  | ok path =>
      have slots := (same.store.slots path.text).loading
      simp only [Store.slotOrEmpty] at slots
      dsimp only
      generalize left.store.slot? path.text = one at slots ⊢
      generalize right.store.slot? path.text = two at slots ⊢
      cases one <;> cases two
      all_goals exact slots

theorem asMounted {engine : Engine} {mounting : Mounting}
    (same : engine.Matches (mount mounting)) : engine.AsMounted mounting where
  values := same.values
  errors := same.store.errors
  isDirty := same.isDirty
  flows := same.store.flows
  fieldOptions := same.fieldOptions
  isLoading := same.isLoading
  pending := same.pending
  currentStep := same.current
  status := same.status
  openDropdown := same.store.openDropdown
  shownPasswords := same.store.shownPasswords
  submitting := same.store.submitting

end Matches

private theorem slotOrEmpty_emptied (engine : Engine) (key : String) :
    ∃ generation, engine.emptied.store.slotOrEmpty key = .ofGeneration generation := by
  rw [Store.slotOrEmpty]
  cases found : engine.emptied.store.slot? key with
  | none => exact ⟨0, rfl⟩
  | some slot =>
      have isThere : engine.emptied.store.slotAt? (.field key) = some slot := found
      obtain ⟨generation, isBlank, _⟩ := (emptied_empties engine).slotAt? isThere
      exact ⟨generation, isBlank⟩

/-- Before anything is derived, a form that was reset and one that is mounted match. -/
theorem emptied_matches {engine : Engine} {mounting : Mounting} (form : engine.form = mounting.form)
    (options : engine.options = mounting.options)
    (initial : engine.store.initial = (unfolded mounting).store.initial) :
    engine.emptied.Matches (unfolded mounting) where
  form := form
  options := options
  store :=
    { values := initial
      initial := initial
      errors := ⟨rfl, rfl⟩
      slots := by
        intro key
        obtain ⟨generation, isBlank⟩ := slotOrEmpty_emptied engine key
        rw [isBlank]
        exact OptionsSlot.matches_ofGeneration generation 0
      flows := .nil
      openDropdown := rfl
      shownPasswords := rfl
      submitting := rfl }
  pending := .nil
  current := rfl
  status := rfl

end Engine

/-! ### Tickets of the time before -/

namespace Ledger

structure Since (start : Nat) (ledger : Ledger) : Prop where
  next : start ≤ ledger.desk.next
  slots : ∀ target slot, ledger.desk.slots target = some slot →
    slot.generation = 0 ∨ start ≤ slot.generation

private theorem since_of_blank {start next after : Nat} {slot : OptionsSlot}
    (later : start ≤ next) (blank : Desk.Blank next after slot) :
    slot.generation = 0 ∨ start ≤ slot.generation := by
  obtain ⟨generation, rfl, range⟩ := blank
  rcases range with zero | ⟨atLeast, _⟩
  · exact Or.inl zero
  · exact Or.inr (Nat.le_trans later atLeast)

/-- New slots have new generations, and no move gives an old one to a slot that is there. -/
theorem Move.since {start : Nat} {before after : Ledger} (move : Move before after)
    (since : before.Since start) : after.Since start := by
  cases move with
  | work desk issued step known =>
      cases step with
      | issue ticket slot slots fresh current waiting requested options others =>
          refine ⟨Nat.le_succ_of_le since.next, fun target found isThere => ?_⟩
          rcases others target found isThere with ⟨_, rfl⟩ | ⟨_, old⟩
          · exact Or.inr (current ▸ since.next)
          · exact since.slots target found old
      | blank slots next later others =>
          refine ⟨Nat.le_trans since.next later, fun target found isThere => ?_⟩
          rcases others target found isThere with old | blank
          · exact since.slots target found old
          · exact since_of_blank since.next blank
  | remove repeatable removed slots pending issued moved follows known =>
      refine ⟨since.next, fun target found isThere => ?_⟩
      obtain ⟨old, _, there⟩ := moved target found isThere
      exact since.slots old found there
  | empty slots next later blank =>
      refine ⟨Nat.le_trans since.next later, fun target found isThere => ?_⟩
      exact since_of_blank since.next (blank target found isThere)
  | take => exact ⟨since.next, since.slots⟩
  | deliver ticket result slot completed slots issued isThere taken replaces =>
      refine ⟨since.next, fun target found there => ?_⟩
      change slots target = some found at there
      rw [replaces target] at there
      split at there
      · cases there
        rw [(OptionsSlot.complete_eq_some taken).2.1]
        exact since.slots _ slot isThere
      · exact since.slots target found there
  | refuse ticket result issued unwanted => exact ⟨since.next, since.slots⟩

end Ledger

namespace Session

open Ledger

variable {mounting : Engine.Mounting} {session : Session}

theorem reset_since (session : Session) :
    (session.operate .reset).ledger.Since session.engine.next := by
  have empties := session.engine.emptied_empties
  have start : Since session.engine.next ⟨session.engine.emptied.desk, session.log⟩ :=
    ⟨empties.later, fun target slot isThere =>
      since_of_blank (Nat.le_refl _) (empties.slotAt? isThere)⟩
  have works := Engine.reset_works session.engine
  have same : (session.operate .reset).ledger.desk = session.engine.reset.desk := rfl
  generalize session.engine.reset = after at works same
  have derived := moves_of_chain works.chain session.log _ (knows_append _ _)
  have since := derived.preserve (fun _ _ move => move.since) start
  refine ⟨?_, ?_⟩
  · rw [same]
    exact since.next
  · rw [same]
    exact since.slots

theorem Reachable.since {start : Nat} (reachable : Reachable mounting session)
    (since : session.ledger.Since start) (steps : List HostStep) (honest : session.Honest steps) :
    (session.run steps).ledger.Since start := by
  induction steps generalizing session with
  | nil => exact since
  | cons step rest ih =>
      have moves := session.step_moves step reachable.tidy honest.1
      exact ih (.stepped step reachable honest.1)
        (moves.preserve (fun _ _ move => move.since) since) honest.2

theorem refused_of_since {start : Nat} (since : session.ledger.Since start) {ticket : Ticket}
    (positive : 0 < ticket.generation) (past : ticket.generation < start) (result : FetchResult) :
    (session.engine.completeFetch ticket result).2 = false := by
  unfold Engine.completeFetch
  cases taken : session.engine.store.complete ticket result with
  | none => rfl
  | some store =>
      obtain ⟨slot, completed, isThere, answered, _⟩ := Store.complete_eq_some taken
      have current := (OptionsSlot.complete_eq_some answered).1
      have range := since.slots ticket.target slot isThere
      omega

/-- A reset makes a form like a newly mounted one, whatever was done with it before, and no ticket
that was issued before the reset is ever taken after it. -/
theorem Reachable.reset_asMounted (reachable : Reachable mounting session) :
    session.engine.reset.AsMounted mounting ∧
      ∀ steps, (session.operate .reset).Honest steps →
        ∀ ticket ∈ session.log.issued, ∀ result,
          (((session.operate .reset).run steps).engine.completeFetch ticket result).2 = false := by
  constructor
  · have start := Engine.emptied_matches reachable.form reachable.options reachable.initial
    have matched := start.refreshDerived none
    rw [Engine.reset_eq]
    exact matched.emitChange.asMounted
  · intro steps honest ticket issued result
    obtain ⟨positive, past⟩ := reachable.accounted.used ticket issued
    have later : Reachable mounting (session.operate .reset) :=
      .stepped (.operate .reset) reachable trivial
    exact refused_of_since (later.since (reset_since session) steps honest) positive past result

/-- After cities were delivered the form is reset, and the new tickets are handed out. -/
theorem italianCities_reset :
    ((mount countryAndCity).run italianCities).engine.reset.AsMounted countryAndCity ∧
      (((((mount countryAndCity).run italianCities).operate .reset).run [.take]).engine.completeFetch
        ⟨.field "city", 4, "options", [.string "Italy"]⟩ (.ok [])).2 = false := by
  have reachable : Reachable countryAndCity ((mount countryAndCity).run italianCities) :=
    .run .mounted (by decide +kernel)
  have issued : ⟨.field "city", 4, "options", [.string "Italy"]⟩ ∈
      ((mount countryAndCity).run italianCities).log.issued := by decide +kernel
  generalize (mount countryAndCity).run italianCities = session at *
  obtain ⟨asMounted, refused⟩ := Reachable.reset_asMounted reachable
  exact ⟨asMounted, refused [.take] ⟨trivial, trivial⟩ _ issued _⟩

end Session

end DeclarativeForm
