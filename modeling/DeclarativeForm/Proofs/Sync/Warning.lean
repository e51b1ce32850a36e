import DeclarativeForm.Proofs.Sync.Current
import DeclarativeForm.Proofs.Sync.Passes
import DeclarativeForm.Proofs.Tree.Dependency

/-!
Where the warning comes from that options do not settle. An operation says nothing of it, or it
brings the fields up to date and says so only if the passes over the options are given up there. So
in every session with the warning there was an attempt that was given up, which takes a field that
was cleared and is hidden afterwards; a circle of dependencies alone is no reason to give up, and
none is needed.
-/

set_option autoImplicit false

namespace DeclarativeForm

namespace Engine

/-- The passes over the options of the form were given up after if they were given up before. -/
structure Calm (before after : Engine) : Prop where
  form : after.form = before.form
  gaveUp : after.gaveUp = before.gaveUp

def Refreshes (before after : Engine) : Prop :=
  ∃ middle touched, before.Calm middle ∧ (middle.refreshDerived touched).Calm after ∧
    after.values = (middle.refreshDerived touched).values

namespace Calm

variable {first second third : Engine}

theorem refl (engine : Engine) : engine.Calm engine := ⟨rfl, rfl⟩

theorem trans (one : first.Calm second) (two : second.Calm third) : first.Calm third :=
  ⟨two.form.trans one.form, two.gaveUp.trans one.gaveUp⟩

theorem silent (form : second.form = first.form) (notices : second.notices = first.notices) :
    first.Calm second := by
  refine ⟨form, ?_⟩
  rw [Engine.gaveUp, notices]
  rfl

theorem noted {added : List Notice} (form : second.form = first.form)
    (notices : second.notices = first.notices ++ added) (none : NoneUnsettled added) :
    first.Calm second :=
  ⟨form, gaveUp_append notices none⟩

end Calm

theorem Refreshes.of_calm {before middle after : Engine} (calm : before.Calm middle)
    (refreshes : middle.Refreshes after) : before.Refreshes after := by
  obtain ⟨fresh, touched, earlier, later⟩ := refreshes
  exact ⟨fresh, touched, calm.trans earlier, later⟩

theorem Refreshes.status {before after : Engine} (refreshes : before.Refreshes after)
    (status : Status) : before.Refreshes { after with status } := by
  obtain ⟨middle, touched, earlier, later, values⟩ := refreshes
  exact ⟨middle, touched, earlier, later.trans (.silent rfl rfl), values⟩

theorem Refreshes.emit {before after : Engine} (refreshes : before.Refreshes after)
    (event : Event) : before.Refreshes (after.emit event) := by
  obtain ⟨middle, touched, earlier, later, values⟩ := refreshes
  exact ⟨middle, touched, earlier, later.trans (.silent rfl rfl), values⟩

theorem Refreshes.of_refresh {before middle : Engine} {touched : Option String}
    (calm : before.Calm middle) :
    before.Refreshes (middle.refreshDerived touched).emitChange :=
  Refreshes.emit ⟨middle, touched, calm, .refl _, rfl⟩ _

/-! ### Operations -/

variable (engine : Engine)

theorem syncFlow_calm (place : FlowPlace) : engine.Calm (engine.syncFlow place) := by
  unfold syncFlow
  dsimp only
  split
  · exact .refl engine
  · exact .silent rfl rfl

theorem syncFlows_calm : engine.Calm engine.syncFlows :=
  syncFlows_keep engine.Calm (fun other place _ calm => calm.trans (other.syncFlow_calm place))
    (.refl engine)

theorem recordLocated_calm (key : String) (located : Located) :
    engine.Calm (engine.recordLocated key located) :=
  .noted rfl rfl (engine.snapshot.validateLocatedNotices_noneUnsettled located)

theorem withValue_calm (path : FieldPath) (located : Located) (value : Json) :
    engine.Calm (engine.withValue path located value) := by
  have written : engine.Calm { engine with store := engine.store.setValue path value } :=
    .silent rfl rfl
  unfold withValue
  dsimp only
  split
  · exact written.trans (recordLocated_calm _ _ _)
  · exact written

theorem setValue_calm (text : String) (value : Json) :
    engine.Calm (engine.setValue text value).1 ∨
      engine.Refreshes (engine.setValue text value).1 := by
  have reached := engine.setValue_write text value
  generalize engine.setValue text value = result at reached ⊢
  cases reached with
  | refused rejection => exact Or.inl (.refl engine)
  | written found complete => exact Or.inr (.of_refresh (engine.withValue_calm _ _ _))

theorem validateField_calm (text : String) : engine.Calm (engine.validateField text).1 := by
  unfold validateField
  cases engine.locate text with
  | error rejection => exact .refl engine
  | ok found => exact recordLocated_calm engine _ _

theorem blur_calm (text : String) : engine.Calm (engine.blur text).1 := by
  unfold blur
  split
  · cases parsePath text <;> exact .refl engine
  · exact validateField_calm engine text

theorem validateAll_calm : engine.Calm engine.validateAll :=
  .noted rfl rfl (engine.snapshot.validateNodesNotices_noneUnsettled _)

theorem validateStep_calm : engine.Calm engine.validateStep.1 := by
  rw [validateStep_eq]
  exact .noted rfl (List.append_assoc _ _ _) (.append engine.currentNodesNotices_noneUnsettled
    (engine.snapshot.validateNodesNotices_noneUnsettled _))

theorem move_calm (navigator : Navigator) (transition : Transition) :
    engine.Calm (engine.move navigator transition) := by
  cases transition <;> exact .silent rfl rfl

theorem nextStep_calm : engine.Calm engine.nextStep.1 := by
  unfold nextStep
  split
  · exact .refl engine
  · have validated := validateStep_calm engine
    dsimp only
    split
    · exact validated
    · exact validated.trans (move_calm _ _ _)

theorem addItem_calm (text : String) :
    engine.Calm (engine.addItem text).1 ∨ engine.Refreshes (engine.addItem text).1 := by
  have reached := engine.addItem_addition text
  generalize engine.addItem text = result at reached ⊢
  cases reached with
  | refused rejection => exact Or.inl (.refl engine)
  | most found message rejection => exact Or.inl (.silent rfl rfl)
  | added found => exact Or.inr (.of_refresh (.silent rfl rfl))

theorem removeItem_calm (text : String) (index : Nat) :
    engine.Calm (engine.removeItem text index).1 ∨
      engine.Refreshes (engine.removeItem text index).1 := by
  have reached := engine.removeItem_removal text index
  generalize engine.removeItem text index = result at reached ⊢
  cases reached with
  | refused rejection => exact Or.inl (.refl engine)
  | least found message rejection => exact Or.inl (.silent rfl rfl)
  | removed found inRange => exact Or.inr (.of_refresh (.silent rfl rfl))

theorem selectFlowStep_calm (text id value : String) :
    engine.Calm (engine.selectFlowStep text id value).1 ∨
      engine.Refreshes (engine.selectFlowStep text id value).1 := by
  have reached := engine.selectFlowStep_choice text id value
  generalize engine.selectFlowStep text id value = result at reached ⊢
  cases reached with
  | refused rejection => exact Or.inl (.refl engine)
  | ignored found starts present selection unapplied =>
      subst starts
      exact Or.inl ((engine.syncFlow_calm _).trans (.silent rfl rfl))
  | applied found starts present isStep enabled chosen tickets output =>
      subst starts
      exact Or.inr (.of_refresh ((engine.syncFlow_calm _).trans (.silent rfl rfl)))

theorem refreshOptions_calm (text : String) : engine.Calm (engine.refreshOptions text).1 := by
  have quiet := optionBindingNotices_noneUnsettled engine.form.fields engine.values
  unfold refreshOptions
  cases engine.locate text with
  | error rejection => exact .refl engine
  | ok found =>
      dsimp only
      split <;> exact .noted rfl rfl quiet

theorem reset_refreshes : engine.Refreshes engine.reset := by
  rw [reset_eq]
  exact .of_refresh (.silent rfl rfl)

theorem submit_calm (handler : Json → Except String Unit) :
    engine.Calm (engine.submit handler).engine ∨
      engine.Refreshes (engine.submit handler).engine := by
  have validated := validateAll_calm engine
  unfold submit
  dsimp only
  split
  · exact Or.inl (validated.trans (.silent rfl rfl))
  · let answered : Engine :=
      { engine.validateAll.startSubmitting with
        store := { engine.validateAll.startSubmitting.store with submitting := false } }
    have submitting : engine.Calm answered := validated.trans (.silent rfl rfl)
    unfold finishSubmitting conclude
    cases handler engine.validateAll.startSubmitting.values with
    | error cause => exact Or.inl (submitting.trans (.noted rfl rfl (.single rfl)))
    | ok _ =>
        exact Or.inr ((((reset_refreshes answered).of_calm submitting).status _).emit _)

theorem perform_calm (operation : HostOperation) :
    engine.Calm (engine.perform operation).1 ∨ engine.Refreshes (engine.perform operation).1 := by
  cases operation with
  | setValue text value => exact setValue_calm engine text value
  | blur text => exact Or.inl (blur_calm engine text)
  | validateField text => exact Or.inl (validateField_calm engine text)
  | validateAll => exact Or.inl (validateAll_calm engine)
  | validateStep => exact Or.inl (validateStep_calm engine)
  | addItem text => exact addItem_calm engine text
  | removeItem text index => exact removeItem_calm engine text index
  | selectFlowStep text id value => exact selectFlowStep_calm engine text id value
  | refreshOptions text => exact Or.inl (refreshOptions_calm engine text)
  | nextStep => exact Or.inl (nextStep_calm engine)
  | previousStep => exact Or.inl (move_calm engine _ _)
  | toggleDropdown key => exact Or.inl (.silent rfl rfl)
  | closeDropdowns => exact Or.inl (.silent rfl rfl)
  | togglePassword key => exact Or.inl (.silent rfl rfl)
  | reset => exact Or.inr (reset_refreshes engine)
  | submit handler => exact submit_calm engine handler

theorem completeFetch_calm (ticket : Ticket) (result : FetchResult) :
    engine.Calm (engine.completeFetch ticket result).1 := by
  unfold completeFetch
  cases engine.store.complete ticket result with
  | none => exact .refl engine
  | some store => exact .noted rfl rfl (ticket.completionNotices_noneUnsettled result)

variable {engine}

/-- Where the warning was not there before, the passes that led to the values were given up. -/
theorem Refreshes.cause {after : Engine} (refreshes : engine.Refreshes after)
    (named : WellNamed engine.form.fields) (given : after.gaveUp = true) :
    engine.gaveUp = true ∨ ∃ (attempt : Engine) (touched : Option String),
      attempt.form = engine.form ∧ attempt.GivesUp touched ∧
        after.values = (attempt.syncOptions touched).values := by
  obtain ⟨middle, touched, earlier, later, values⟩ := refreshes
  have started := earlier.trans middle.syncFlows_calm
  rw [later.gaveUp] at given
  rcases (syncOptions_gaveUp_iff touched (started.form ▸ named)).mp given with before | givesUp
  · exact Or.inl (started.gaveUp.symm.trans before)
  · exact Or.inr ⟨middle.syncFlows, touched, started.form, givesUp, values⟩

end Engine

/-! ### Sessions -/

namespace Session

open Engine

variable {mounting : Mounting} {session : Session}

/-- In a session with the warning there was an attempt that was given up, and a host has seen what
it left. -/
theorem Reachable.cause (reachable : Reachable mounting session)
    (named : WellNamed mounting.form.fields) (given : session.engine.gaveUp = true) :
    ∃ (moment : Session) (attempt : Engine) (touched : Option String),
      Reachable mounting moment ∧ attempt.form = mounting.form ∧ attempt.GivesUp touched ∧
        moment.engine.values = (attempt.syncOptions touched).values := by
  induction reachable with
  | mounted =>
      have refreshes : (unfolded mounting).Refreshes (Session.mount mounting).engine :=
        ⟨unfolded mounting, none, .refl _, .refl _, rfl⟩
      rcases refreshes.cause named given with impossible | ⟨attempt, touched, form, attempted⟩
      · cases impossible
      · exact ⟨_, attempt, touched, .mounted, form, attempted⟩
  | @stepped session step before allowed ih =>
      have form := before.form
      cases step with
      | operate operation =>
          rcases session.engine.perform_calm operation with calm | refreshes
          · exact ih (calm.gaveUp.symm.trans given)
          · rcases refreshes.cause (form ▸ named) given with
              earlier | ⟨attempt, touched, same, attempted⟩
            · exact ih earlier
            · exact ⟨_, attempt, touched, .stepped _ before allowed, same.trans form, attempted⟩
      | take => exact ih given
      | complete ticket result =>
          exact ih ((session.engine.completeFetch_calm ticket result).gaveUp.symm.trans given)

/-- When nothing hides the fields that are fed, whatever their sources depend on, the passes end
with one that clears nothing, and at most as many come before it as there are bindings. No give-up
is told of, and every field that is fed has been asked for with its current arguments. -/
theorem Reachable.passes_bounded (reachable : Reachable mounting session)
    (named : WellNamed mounting.form.fields) (shown : AlwaysShown mounting.form.fields) :
    (∀ (engine : Engine) (touched : Option String), engine.form = mounting.form →
      (∃ count last, ClearingPasses touched count engine last ∧
        count ≤ engine.bindings.length ∧ last.bindings.length = engine.bindings.length ∧
        (last.nextPass touched).2 = false ∧
        engine.syncOptions touched = (last.nextPass touched).1) ∧
      (engine.syncOptions touched).gaveUp = engine.gaveUp ∧
      (engine.syncOptions touched).Settled) ∧
    session.engine.gaveUp = false ∧ session.engine.Settled := by
  refine ⟨fun engine touched form => ?_, ?_, reachable.settles named shown⟩
  · rw [← form] at named shown
    have bounded := syncOptions_ends_shown touched named shown
    refine ⟨bounded, ?_, syncOptions_settled touched named (not_givesUp touched named shown)⟩
    obtain ⟨_, last, chain, _, _, _, same⟩ := bounded
    rw [same, nextPass_gaveUp, chain.gaveUp]
  · refine eq_false_of_ne_true fun given => ?_
    obtain ⟨_, attempt, touched, _, form, givesUp, _⟩ := reachable.cause named given
    exact not_givesUp touched (form ▸ named) (form ▸ shown) givesUp

def circle : Mounting :=
  .ofFields
    [.leaf (.fed "country" (.dependingOn ["city"])), .leaf (.fed "city" (.dependingOn ["country"]))]
    (.object [("country", .string "Italy"), ("city", .string "Rome")])

def circleWritten : Engine :=
  { (mount circle).engine with
    store := (mount circle).engine.store.setValue ⟨[.key "country"]⟩ (.string "France") }

theorem circle_settles :
    ∃ count last, ClearingPasses (some "country") count circleWritten last ∧ count ≤ 2 ∧
      (last.nextPass (some "country")).2 = false ∧
      (circleWritten.syncOptions (some "country")).gaveUp = false := by
  have named : WellNamed circle.form.fields := by decide +kernel
  have shown : AlwaysShown circle.form.fields := by decide +kernel
  obtain ⟨settles, steady, _⟩ := Reachable.passes_bounded .mounted named shown
  obtain ⟨⟨count, last, chain, atMost, _, idle, _⟩, same, _⟩ :=
    settles circleWritten (some "country") rfl
  have two : circleWritten.bindings.length = 2 := by decide +kernel
  exact ⟨count, last, chain, two ▸ atMost, idle, same.trans steady⟩

/-- The passes are given up exactly when one of them clears something and comes after at least as
many as there are bindings then, and then a field that was cleared before is not visible any more.
A session with the warning has seen the end of such an attempt. Where no attempt is given up, every
visible field that is fed has been asked for with its current arguments. -/
theorem Reachable.gives_up_only_if_hidden (reachable : Reachable mounting session)
    (named : WellNamed mounting.form.fields) :
    (∀ (engine : Engine) (touched : Option String), engine.form = mounting.form →
      ((engine.syncOptions touched).gaveUp = true ↔
        engine.gaveUp = true ∨ engine.GivesUp touched) ∧
      (engine.GivesUp touched → ∃ last binding, ClearedSince touched engine last binding ∧
        ∀ other ∈ last.bindings, other.path ≠ binding.path) ∧
      (¬engine.GivesUp touched → (engine.syncOptions touched).Settled)) ∧
    (session.engine.gaveUp = true →
      ∃ (moment : Session) (attempt : Engine) (touched : Option String),
        Reachable mounting moment ∧ attempt.form = mounting.form ∧ attempt.GivesUp touched ∧
          moment.engine.values = (attempt.syncOptions touched).values) ∧
    (session.engine.gaveUp = false → session.engine.Settled) := by
  refine ⟨fun engine touched form => ?_, reachable.cause named, reachable.settled named⟩
  rw [← form] at named
  exact ⟨syncOptions_gaveUp_iff touched named, fun givesUp => givesUp.hidden named,
    syncOptions_settled touched named⟩

/-- A region is chosen in a country, and shown only if there is one; a city is chosen in the region;
and places nearby are offered while there is no city. -/
def travel : Mounting :=
  .ofFields
    [.leaf { Leaf.fed "country" (.dependingOn []) with kind := .text, optionsSource := none },
      .leaf { Leaf.fed "region" (.dependingOn ["country"]) with
        showWhen := some ⟨[⟨"region", .isTruthy, .null⟩], .all⟩ },
      .leaf (.fed "city" (.dependingOn ["region"])),
      .leaf { Leaf.fed "nearby" (.dependingOn []) with
        showWhen := some ⟨[⟨"city", .isFalsy, .null⟩], .all⟩ }]
    (.object [("country", .string "Italy"), ("region", .string "Lazio"), ("city", .string "Rome")])

def toFrance : List HostStep := [.operate (.setValue "country" (.string "France"))]

/-- No field depends on itself, but when the country changes the region is cleared and hides itself,
and the passes are given up before the places nearby are asked for. -/
theorem travel_givesUp :
    (∀ name, ¬Relation.TransGen (Leads travel.form.fields) name name) ∧
    ((mount travel).run toFrance).engine.store.slot? "nearby" = none ∧
    ∃ (attempt : Engine) (touched : Option String) (last : Engine) (binding : OptionBinding),
      attempt.form = travel.form ∧ attempt.GivesUp touched ∧
        ClearedSince touched attempt last binding ∧
        ∀ other ∈ last.bindings, other.path ≠ binding.path := by
  have named : WellNamed travel.form.fields := by decide +kernel
  have given : ((mount travel).run toFrance).engine.gaveUp = true := by decide +kernel
  have reachable : Reachable travel ((mount travel).run toFrance) :=
    .run .mounted (by decide +kernel)
  obtain ⟨attempts, caused, _⟩ := Reachable.gives_up_only_if_hidden reachable named
  obtain ⟨_, attempt, touched, _, form, givesUp, _⟩ := caused given
  obtain ⟨last, binding, cleared, hidden⟩ := (attempts attempt touched form).2.1 givesUp
  let rank (name : String) := if name = "city" then 2 else if name = "region" then 1 else 0
  refine ⟨acyclic_of_rank rank (by decide +kernel), ?_, attempt, touched, last, binding, form,
    givesUp, cleared, hidden⟩
  exact Option.isNone_iff_eq_none.mp (by decide +kernel)

end Session

end DeclarativeForm
