import DeclarativeForm.Proofs.Fetch.Ledger
import DeclarativeForm.Proofs.Sync.Settled

/-!
Where requests come from. A step of a host leaves the values and what was asked for as they were
and takes no flow its state, or it brings the fields up to date, and then nothing changes any more.
So what holds whenever the fields were brought up to date, and is kept when nothing changes, holds
in every session.
-/

set_option autoImplicit false

namespace DeclarativeForm

namespace Engine

structure Rests (before after : Engine) : Prop where
  form : after.form = before.form
  values : after.values = before.values
  asked : ∀ binding ∈ before.bindings, before.Asked binding → after.Asked binding
  flows : ∀ key, (before.store.flow? key).isSome = true → (after.store.flow? key).isSome = true
  notices : before.notices <+: after.notices

/-- Nothing has changed since the fields were brought up to date. -/
def Derives (before after : Engine) : Prop :=
  ∃ middle touched, middle.form = before.form ∧ (refreshDerived middle touched).Rests after

namespace Rests

variable {first second third : Engine}

theorem quiet (form : second.form = first.form) (values : second.values = first.values)
    (slots : second.store.slots = first.store.slots)
    (flows : second.store.flows = first.store.flows) (notices : first.notices <+: second.notices) :
    first.Rests second where
  form := form
  values := values
  asked _ _ asked := asked.congr slots
  flows key present := by
    rw [Store.flow?, flows]
    exact present
  notices := notices

theorem refl (engine : Engine) : engine.Rests engine :=
  .quiet rfl rfl rfl rfl (List.prefix_refl _)

theorem ofFlow {key : String} {state : FlowState} (form : second.form = first.form)
    (values : second.values = first.values) (slots : second.store.slots = first.store.slots)
    (flows : second.store.flows = first.store.flows.put key state)
    (notices : first.notices <+: second.notices) : first.Rests second where
  form := form
  values := values
  asked _ _ asked := asked.congr slots
  flows other present := by
    rw [Store.flow?, flows, Keyed.find?_put]
    split
    · rfl
    · exact present
  notices := notices

theorem trans (one : first.Rests second) (two : second.Rests third) : first.Rests third where
  form := two.form.trans one.form
  values := two.values.trans one.values
  asked binding member asked := by
    refine two.asked binding ?_ (one.asked binding member asked)
    rw [bindings_congr one.form one.values]
    exact member
  flows key present := two.flows key (one.flows key present)
  notices := one.notices.trans two.notices

theorem settled (rests : first.Rests second) (settled : first.Settled) : second.Settled := by
  intro binding member
  rw [bindings_congr rests.form rests.values] at member
  exact rests.asked binding member (settled binding member)

end Rests

theorem Derives.trans_rests {before middle after : Engine} (derives : before.Derives middle)
    (rests : middle.Rests after) : before.Derives after := by
  obtain ⟨origin, touched, form, rested⟩ := derives
  exact ⟨origin, touched, form, rested.trans rests⟩

theorem Derives.of_form {before middle after : Engine} (form : middle.form = before.form)
    (derives : middle.Derives after) : before.Derives after := by
  obtain ⟨origin, touched, same, rested⟩ := derives
  exact ⟨origin, touched, same.trans form, rested⟩

theorem status_rests (engine : Engine) (status : Status) :
    engine.Rests { engine with status } :=
  .quiet rfl rfl rfl rfl (List.prefix_refl _)

theorem emit_rests (engine : Engine) (event : Event) : engine.Rests (engine.emit event) :=
  .quiet rfl rfl rfl rfl (List.prefix_refl _)

theorem Derives.of_refresh {before middle : Engine} {touched : Option String}
    (form : middle.form = before.form) :
    before.Derives (middle.refreshDerived touched).emitChange :=
  ⟨middle, touched, form, emit_rests _ _⟩

theorem note_rests (engine : Engine) (notices : List Notice) :
    engine.Rests (engine.note notices) :=
  .quiet rfl rfl rfl rfl (List.prefix_append _ _)

/-! ### Operations -/

theorem recordErrors_values (keys : List String) (errors : ErrorMap) (store : Store) :
    (recordErrors store keys errors).values = store.values :=
  recordErrors_keeps Store.values (fun _ _ => rfl) keys errors store

theorem recordLocated_rests (engine : Engine) (key : String) (located : Located) :
    engine.Rests (engine.recordLocated key located) :=
  .quiet rfl (recordErrors_values _ _ _) (recordErrors_tables _ _ _).1
    (recordErrors_tables _ _ _).2.1 (List.prefix_append _ _)

theorem withValue_form (engine : Engine) (path : FieldPath) (located : Located) (value : Json) :
    (engine.withValue path located value).form = engine.form := by
  unfold withValue
  dsimp only
  split <;> rfl

theorem setValue_rests (engine : Engine) (text : String) (value : Json) :
    engine.Rests (engine.setValue text value).1 ∨
      engine.Derives (engine.setValue text value).1 := by
  have reached := engine.setValue_write text value
  generalize engine.setValue text value = result at reached ⊢
  cases reached with
  | refused rejection => exact Or.inl (.refl engine)
  | written found complete => exact Or.inr (.of_refresh (engine.withValue_form _ _ _))

theorem validateField_rests (engine : Engine) (text : String) :
    engine.Rests (engine.validateField text).1 := by
  unfold validateField
  cases engine.locate text with
  | error rejection => exact .refl engine
  | ok found => exact recordLocated_rests engine _ _

theorem blur_rests (engine : Engine) (text : String) : engine.Rests (engine.blur text).1 := by
  unfold blur
  split
  · cases parsePath text <;> exact .refl engine
  · exact validateField_rests engine text

theorem validateAll_rests (engine : Engine) : engine.Rests engine.validateAll :=
  .quiet rfl rfl rfl rfl (List.prefix_append _ _)

theorem validateStep_rests (engine : Engine) : engine.Rests engine.validateStep.1 :=
  .quiet rfl rfl rfl rfl ⟨_, (List.append_assoc _ _ _).symm⟩

theorem move_rests (engine : Engine) (navigator : Navigator) (transition : Transition) :
    engine.Rests (engine.move navigator transition) := by
  cases transition <;> exact .quiet rfl rfl rfl rfl (List.prefix_refl _)

theorem nextStep_rests (engine : Engine) : engine.Rests engine.nextStep.1 := by
  unfold nextStep
  split
  · exact .refl engine
  · have validated := validateStep_rests engine
    dsimp only
    split
    · exact validated
    · exact validated.trans (move_rests _ _ _)

theorem addItem_rests (engine : Engine) (text : String) :
    engine.Rests (engine.addItem text).1 ∨ engine.Derives (engine.addItem text).1 := by
  have reached := engine.addItem_addition text
  generalize engine.addItem text = result at reached ⊢
  cases reached with
  | refused rejection => exact Or.inl (.refl engine)
  | most found message rejection => exact Or.inl (.quiet rfl rfl rfl rfl (List.prefix_refl _))
  | added found => exact Or.inr (.of_refresh rfl)

theorem removeItem_rests (engine : Engine) (text : String) (index : Nat) :
    engine.Rests (engine.removeItem text index).1 ∨
      engine.Derives (engine.removeItem text index).1 := by
  have reached := engine.removeItem_removal text index
  generalize engine.removeItem text index = result at reached ⊢
  cases reached with
  | refused rejection => exact Or.inl (.refl engine)
  | least found message rejection => exact Or.inl (.quiet rfl rfl rfl rfl (List.prefix_refl _))
  | removed found inRange => exact Or.inr (.of_refresh rfl)

theorem syncFlow_rests (engine : Engine) (place : FlowPlace) :
    engine.Rests (engine.syncFlow place) := by
  unfold syncFlow
  dsimp only
  split
  · exact .refl engine
  · exact .ofFlow rfl rfl rfl rfl (List.prefix_refl _)

theorem selectFlowStep_rests (engine : Engine) (text id value : String) :
    engine.Rests (engine.selectFlowStep text id value).1 ∨
      engine.Derives (engine.selectFlowStep text id value).1 := by
  have reached := engine.selectFlowStep_choice text id value
  generalize engine.selectFlowStep text id value = result at reached ⊢
  cases reached with
  | refused rejection => exact Or.inl (.refl engine)
  | ignored found starts present selection unapplied =>
      subst starts
      exact Or.inl ((engine.syncFlow_rests _).trans
        (.ofFlow rfl rfl rfl rfl (List.prefix_refl _)))
  | applied found starts present isStep enabled chosen tickets output =>
      subst starts
      exact Or.inr (.of_refresh (engine.syncFlow_rests _).form)

/-- A request for the current arguments changes nothing of what was asked for. -/
theorem refreshOptions_rests (engine : Engine) (text : String)
    (named : WellNamed engine.form.fields) :
    engine.Rests (engine.refreshOptions text).1 := by
  unfold refreshOptions
  cases engine.locate text with
  | error rejection => exact .refl engine
  | ok found =>
      obtain ⟨path, located⟩ := found
      have noted := note_rests engine (optionBindingNotices engine.form.fields engine.values)
      dsimp only
      split
      · exact noted
      · rename_i binding isFound
        refine noted.trans ⟨rfl, rfl, ?_, fun _ present => present, List.prefix_refl _⟩
        have member := List.mem_of_find?_eq_some isFound
        have isKey := List.find?_some isFound
        have sameKey : binding.key = path.text := eq_of_beq isKey
        intro other isBinding asked
        rw [← sameKey]
        by_cases same : other.key = binding.key
        · rw [eq_of_key_eq named isBinding member same]
          exact ⟨_, Keyed.find?_put_self binding.key _ _,
            OptionsSlot.request_requestedFor _ _ _ _ _ _⟩
        · obtain ⟨slot, isThere, equal⟩ := asked
          exact ⟨slot, (Keyed.find?_put_other same _ _).trans isThere, equal⟩

theorem reset_derives (engine : Engine) : engine.Derives engine.reset := by
  rw [reset_eq]
  exact .of_refresh rfl

theorem submit_rests (engine : Engine) (handler : Json → Except String Unit) :
    engine.Rests (engine.submit handler).engine ∨
      engine.Derives (engine.submit handler).engine := by
  have validated := validateAll_rests engine
  unfold submit
  dsimp only
  split
  · exact Or.inl (validated.trans (status_rests _ _))
  · unfold finishSubmitting conclude
    cases handler engine.validateAll.startSubmitting.values with
    | error cause =>
        exact Or.inl (validated.trans (.quiet rfl rfl rfl rfl (List.prefix_append _ _)))
    | ok _ =>
        let answered : Engine :=
          { engine.validateAll.startSubmitting with
            store := { engine.validateAll.startSubmitting.store with submitting := false } }
        have form : answered.form = engine.form := rfl
        have started : engine.Derives answered.reset := (reset_derives answered).of_form form
        exact Or.inr ((started.trans_rests (status_rests answered.reset _)).trans_rests
          (emit_rests _ _))

theorem perform_rests (engine : Engine) (operation : HostOperation)
    (named : WellNamed engine.form.fields) :
    engine.Rests (engine.perform operation).1 ∨ engine.Derives (engine.perform operation).1 := by
  cases operation with
  | setValue text value => exact setValue_rests engine text value
  | blur text => exact Or.inl (blur_rests engine text)
  | validateField text => exact Or.inl (validateField_rests engine text)
  | validateAll => exact Or.inl (validateAll_rests engine)
  | validateStep => exact Or.inl (validateStep_rests engine)
  | addItem text => exact addItem_rests engine text
  | removeItem text index => exact removeItem_rests engine text index
  | selectFlowStep text id value => exact selectFlowStep_rests engine text id value
  | refreshOptions text => exact Or.inl (refreshOptions_rests engine text named)
  | nextStep => exact Or.inl (nextStep_rests engine)
  | previousStep => exact Or.inl (move_rests engine _ _)
  | toggleDropdown key => exact Or.inl (.quiet rfl rfl rfl rfl (List.prefix_refl _))
  | closeDropdowns => exact Or.inl (.quiet rfl rfl rfl rfl (List.prefix_refl _))
  | togglePassword key => exact Or.inl (.quiet rfl rfl rfl rfl (List.prefix_refl _))
  | reset => exact Or.inr (reset_derives engine)
  | submit handler => exact submit_rests engine handler

private theorem answer_rests (engine : Engine) {store : Store} {ticket : Ticket}
    {result : FetchResult} (taken : engine.store.complete ticket result = some store) :
    engine.Rests { engine with store } := by
  unfold Store.complete at taken
  cases target : ticket.target with
  | field path =>
      rw [target] at taken
      obtain ⟨slot, isThere, done⟩ := Option.bind_eq_some_iff.mp taken
      obtain ⟨after, completed, put⟩ := Option.bind_eq_some_iff.mp done
      cases put
      have requested := (OptionsSlot.complete_eq_some completed).2.2.1
      refine ⟨rfl, rfl, fun binding _ asked => ?_, fun _ present => present, List.prefix_refl _⟩
      obtain ⟨found, there, equal⟩ := asked
      by_cases same : binding.key = path
      · subst same
        refine ⟨after, Keyed.find?_put_self _ _ _, ?_⟩
        rw [Option.some.inj (isThere.symm.trans there)] at requested
        rw [requested]
        exact equal
      · exact ⟨found, (Keyed.find?_put_other same _ _).trans there, equal⟩
  | flowStep path step =>
      rw [target] at taken
      obtain ⟨state, _, done⟩ := Option.bind_eq_some_iff.mp taken
      obtain ⟨after, _, put⟩ := Option.bind_eq_some_iff.mp done
      cases put
      exact .ofFlow rfl rfl rfl rfl (List.prefix_refl _)

theorem completeFetch_rests (engine : Engine) (ticket : Ticket) (result : FetchResult) :
    engine.Rests (engine.completeFetch ticket result).1 := by
  unfold completeFetch
  cases taken : engine.store.complete ticket result with
  | none => exact .refl engine
  | some store =>
      have told := (note_rests { engine with store } (ticket.completionNotices result)).trans
        (emit_rests _ (.optionsLoaded ticket.target))
      exact (answer_rests engine taken).trans told

theorem completeFetch_options (engine : Engine) (ticket : Ticket) (result : FetchResult) :
    (engine.completeFetch ticket result).1.options = engine.options := by
  unfold completeFetch
  cases engine.store.complete ticket result <;> rfl

theorem completeFetch_initial (engine : Engine) (ticket : Ticket) (result : FetchResult) :
    (engine.completeFetch ticket result).1.store.initial = engine.store.initial := by
  unfold completeFetch
  cases taken : engine.store.complete ticket result with
  | none => rfl
  | some store =>
      rcases Store.complete_put taken with ⟨key, _, slot, _, rfl⟩ | ⟨key, _, state, _, rfl⟩
      · rfl
      · rfl

end Engine

/-! ### Sessions -/

namespace Session

theorem Reachable.form {mounting : Engine.Mounting} {session : Session}
    (reachable : Reachable mounting session) : session.engine.form = mounting.form := by
  induction reachable with
  | mounted => exact (mount_works mounting).form
  | @stepped session step _ _ ih =>
      cases step with
      | operate operation => exact (session.engine.perform_performed operation).form.trans ih
      | take => exact ih
      | complete ticket result =>
          exact (Engine.completeFetch_rests session.engine ticket result).form.trans ih

theorem Reachable.options {mounting : Engine.Mounting} {session : Session}
    (reachable : Reachable mounting session) : session.engine.options = mounting.options := by
  induction reachable with
  | mounted => exact (mount_works mounting).options
  | @stepped session step _ _ ih =>
      cases step with
      | operate operation => exact (session.engine.perform_performed operation).options.trans ih
      | take => exact ih
      | complete ticket result => exact (Engine.completeFetch_options _ _ _).trans ih

theorem Reachable.initial {mounting : Engine.Mounting} {session : Session}
    (reachable : Reachable mounting session) :
    session.engine.store.initial = (Engine.unfolded mounting).store.initial := by
  induction reachable with
  | mounted => exact (mount_works mounting).initial
  | @stepped session step _ _ ih =>
      cases step with
      | operate operation => exact (session.engine.perform_performed operation).initial.trans ih
      | take => exact ih
      | complete ticket result => exact (Engine.completeFetch_initial _ _ _).trans ih

/-- What holds whenever the fields were brought up to date, and is kept when nothing changes, holds
in every session. -/
theorem Reachable.derived {mounting : Engine.Mounting} {session : Session}
    (reachable : Reachable mounting session) (named : WellNamed mounting.form.fields)
    (property : Engine → Prop)
    (refreshed : ∀ (engine : Engine) (touched : Option String), engine.form = mounting.form →
      property (engine.refreshDerived touched))
    (rests : ∀ before after : Engine, before.Rests after → property before → property after) :
    property session.engine := by
  induction reachable with
  | mounted => exact refreshed (Engine.unfolded mounting) none rfl
  | @stepped session step before allowed ih =>
      have form := before.form
      cases step with
      | operate operation =>
          rw [← form] at named
          rcases session.engine.perform_rests operation named with rest | derives
          · exact rests _ _ rest ih
          · obtain ⟨middle, touched, same, rest⟩ := derives
            exact rests _ _ rest (refreshed middle touched (same.trans form))
      | take =>
          have rest : session.engine.Rests session.take.engine :=
            .quiet rfl rfl rfl rfl (List.prefix_refl _)
          exact rests _ _ rest ih
      | complete ticket result =>
          exact rests _ _ (session.engine.completeFetch_rests ticket result) ih

end Session

end DeclarativeForm
