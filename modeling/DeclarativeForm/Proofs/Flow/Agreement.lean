import DeclarativeForm.Proofs.Flow.Writers

/-!
Flows that are complete and flows that show something. Unless something else than a choice wrote the
value of a flow last, the step that was chosen last tells both what the state of the flow holds and
what is shown. So a flow is complete when it shows something, namely the value of its output step,
and also when a step behind the output step was chosen: that takes away the value at the path and
leaves the output step the one it had.
-/

set_option autoImplicit false

namespace DeclarativeForm

open FieldPath

theorem Store.complete_carries {store after : Store} {ticket : Ticket} {result : FetchResult}
    (taken : store.complete ticket result = some after) (flow : Flow) (key : String) :
    flow.Carries (store.flow? key) (after.flow? key) := by
  unfold complete at taken
  cases isTarget : ticket.target with
  | field path =>
      rw [isTarget] at taken
      obtain ⟨slot, _, answered⟩ := Option.bind_eq_some_iff.mp taken
      obtain ⟨later, _, same⟩ := Option.bind_eq_some_iff.mp answered
      cases same
      exact .of_eq rfl
  | flowStep path step =>
      rw [isTarget] at taken
      obtain ⟨state, present, answered⟩ := Option.bind_eq_some_iff.mp taken
      obtain ⟨later, done, same⟩ := Option.bind_eq_some_iff.mp answered
      cases same
      by_cases here : key = path
      · subst here
        have isThere : (store.putFlow key later).flow? key = some later :=
          Keyed.find?_put_self _ _ _
        rw [present, isThere]
        obtain ⟨steps, value⟩ := @FlowState.complete_keeps flow state step later _ _ done
        refine ⟨fun wasFor other same => ?_, value⟩
        cases same
        exact steps (wasFor state rfl)
      · exact .of_eq (Keyed.find?_put_other here _ _)

namespace Engine

variable {engine : Engine} {path : FieldPath} {flow : Flow} {place : Context} {writers : Writers}

/-! ### Operations -/

theorem Still.firstWriters {after : Engine} (still : engine.Still after) (path : FieldPath) :
    after.firstWriters path = engine.firstWriters path := by
  unfold Engine.firstWriters
  rw [still.shown?]

theorem derived_tracks (noFlows : engine.store.flows = []) (named : WellNamed engine.form.fields)
    (addresses : Addresses engine.form.fields .root path.segments ⟨.flow flow, place⟩)
    (touched : Option String) :
    (engine.refreshDerived touched).Tracks path flow
      ((engine.refreshDerived touched).firstWriters path) := by
  have first := (tracks_of_noFlows noFlows path flow).derived named addresses touched
  unfold Engine.firstWriters at first ⊢
  rw [shown?_refreshDerived touched named addresses]
  exact first

theorem reset_tracks (named : WellNamed engine.form.fields)
    (addresses : Addresses engine.form.fields .root path.segments ⟨.flow flow, place⟩) :
    engine.reset.Tracks path flow (engine.reset.firstWriters path) := by
  have derived := @derived_tracks engine.emptied path flow place rfl named addresses none
  have told := emitChange_still (engine.emptied.refreshDerived none)
  rw [← told.firstWriters] at derived
  exact derived.still told

theorem submit_tracks (named : WellNamed engine.form.fields)
    (addresses : Addresses engine.form.fields .root path.segments ⟨.flow flow, place⟩)
    (tracks : engine.Tracks path flow (writers path)) (handler : Json → Except String Unit) :
    (engine.submit handler).engine.Tracks path flow
      (writers.after engine (engine.submit handler).engine (.submit handler)
        (.submitted (engine.submit handler).outcome (engine.submit handler).sent) path) := by
  have concluded (fresh : Engine) (status : Status) (event : Event) :
      fresh.Still ({ fresh with status }.emit event) := ⟨rfl, rfl⟩
  unfold submit
  dsimp only
  split
  · exact tracks.still ⟨rfl, rfl⟩
  · unfold finishSubmitting conclude
    cases handler engine.validateAll.startSubmitting.values with
    | error cause => exact tracks.still ⟨rfl, rfl⟩
    | ok _ =>
        let answered : Engine :=
          { engine.validateAll.startSubmitting with
            store := { engine.validateAll.startSubmitting.store with submitting := false } }
        have started := @reset_tracks answered path flow place named addresses
        dsimp only
        have last := concluded answered.reset
        rw [← (last _ _).firstWriters] at started
        exact started.still (last _ _)

theorem completeFetch_tracks {writer : Writer} (tracks : engine.Tracks path flow writer)
    (ticket : Ticket) (result : FetchResult) :
    (engine.completeFetch ticket result).1.Tracks path flow writer := by
  refine tracks.carried ?_ ?_
  · unfold completeFetch
    cases taken : engine.store.complete ticket result with
    | none => exact .of_eq rfl
    | some store => exact Store.complete_carries taken flow path.text
  · unfold shown?
    rw [completeFetch_values]

/-! ### Runs -/

/-- After every operation the flows and what is shown of them are as the last writers left them. -/
structure Tracked (fields : List Node) (engine : Engine) (writers : Writers) : Prop where
  orderly : engine.Orderly fields
  tracks : ∀ path flow place, Addresses fields .root path.segments ⟨.flow flow, place⟩ →
    (flow.steps.map FlowStep.id).Nodup → engine.Tracks path flow (writers path)

namespace Tracked

variable {fields : List Node}

theorem perform (tracked : Tracked fields engine writers) (named : WellNamed fields)
    (operation : HostOperation) :
    Tracked fields (engine.perform operation).1
      (writers.after engine (engine.perform operation).1 operation
        (engine.perform operation).2) where
  orderly := tracked.orderly.perform named operation
  tracks path flow place addresses distinct := by
    have others other around (there : Addresses fields .root other.segments ⟨.flow flow, around⟩) :
        engine.Tracks other flow (writers other) := tracked.tracks other flow around there distinct
    have here := others path place addresses
    have looked {operation : HostOperation} (looks : ¬operation.Writes) :
        (engine.perform operation).1.Tracks path flow (writers path) :=
      here.still (engine.perform_still looks)
    have orderly := tracked.orderly
    rw [← orderly.form] at named addresses others orderly
    cases operation with
    | setValue text value => exact setValue_tracks named addresses here text value
    | blur text => exact looked id
    | validateField text => exact looked id
    | validateAll => exact looked id
    | validateStep => exact looked id
    | addItem text => exact addItem_tracks named addresses here text
    | removeItem text index => exact removeItem_tracks named addresses orderly others text index
    | selectFlowStep text id value =>
        exact selectFlowStep_tracks named addresses distinct here text id value
    | refreshOptions text => exact looked id
    | nextStep => exact looked id
    | previousStep => exact looked id
    | toggleDropdown key => exact looked id
    | closeDropdowns => exact looked id
    | togglePassword key => exact looked id
    | reset => exact reset_tracks named addresses
    | submit handler => exact submit_tracks named addresses here handler

theorem completeFetch (tracked : Tracked fields engine writers) (ticket : Ticket)
    (result : FetchResult) : Tracked fields (engine.completeFetch ticket result).1 writers where
  orderly := tracked.orderly.completeFetch ticket result
  tracks path flow place addresses distinct :=
    completeFetch_tracks (tracked.tracks path flow place addresses distinct) ticket result

theorem takePending (tracked : Tracked fields engine writers) :
    Tracked fields engine.takePending.1 writers where
  orderly := ⟨tracked.orderly.form, tracked.orderly.errors, tracked.orderly.slots,
    tracked.orderly.flows, tracked.orderly.passwords, fun _ member => nomatch member⟩
  tracks path flow place addresses distinct :=
    (tracked.tracks path flow place addresses distinct).still ⟨rfl, rfl⟩

theorem mount (mounting : Mounting) (named : WellNamed mounting.form.fields) :
    Tracked mounting.form.fields (Engine.mount mounting) (Engine.mount mounting).firstWriters where
  orderly := .mount mounting named
  tracks path flow place addresses _ :=
    @derived_tracks (unfolded mounting) path flow place rfl named addresses none

end Tracked

/-! ### Completeness -/

/-- A flow without its output step has no value for it. -/
theorem Tracks.value_of_strange {writer : Writer} (tracks : engine.Tracks path flow writer)
    (strange : flow.stepIndex flow.outputStepId = none) :
    (engine.flowAt path).value flow.outputStepId = "" := by
  have steps := tracks.steps
  unfold flowAt
  cases isThere : engine.store.flow? path.text with
  | none => rfl
  | some state => exact (steps state isThere).value_eq (Flow.not_mem_ids_of_stepIndex strange)

theorem exists_flowState? {text id : String} (parsed : parse text = .ok path)
    (filled : (engine.flowAt path).value id ≠ "") :
    ∃ state, engine.flowState? text = some state ∧
      state.value id = (engine.flowAt path).value id := by
  unfold flowAt at filled ⊢
  unfold flowState?
  rw [parsed]
  dsimp only
  cases isThere : engine.store.flow? path.text with
  | none =>
      rw [isThere] at filled
      exact absurd rfl filled
  | some state => exact ⟨state, rfl, rfl⟩

theorem isFlowComplete_iff {text : String} (parsed : parse text = .ok path)
    (addresses : Addresses engine.form.fields .root path.segments ⟨.flow flow, place⟩) :
    engine.isFlowComplete text = true ↔
      (engine.flowAt path).value flow.outputStepId ≠ "" := by
  have found := locate_of_addresses parsed addresses
  unfold isFlowComplete locateFlow? flowAt
  rw [found]
  dsimp only
  cases engine.store.flow? path.text with
  | none =>
      constructor
      · exact fun complete => absurd complete Bool.false_ne_true
      · exact fun filled => absurd rfl filled
  | some state =>
      change (!(state.value flow.outputStepId).isEmpty) = true ↔ _
      rw [Bool.not_eq_true', String.isEmpty_eq_false_iff, Option.getD_some]

theorem shown?_eq_some_iff {text shown : String} (parsed : parse text = .ok path) :
    engine.shown? path = some shown ↔ shown ≠ "" ∧ engine.value? text = some (.string shown) := by
  rw [shown?, value?_eq parsed]
  cases path.get? engine.values with
  | none =>
      constructor
      · exact fun shows => absurd shows.symm (Option.some_ne_none _)
      · exact fun shows => absurd shows.2.symm (Option.some_ne_none _)
  | some value => rw [Option.bind_some, Json.shown?_eq_some_iff, Option.some.injEq]

end Engine

namespace Session

def writersAfter (session : Session) (writers : Writers) : HostStep → Writers
  | .operate operation =>
    writers.after session.engine (session.engine.perform operation).1 operation
      (session.engine.perform operation).2
  | .take => writers
  | .complete _ _ => writers

/-- A session with the record of who wrote the value at each path last. -/
inductive Recorded (mounting : Engine.Mounting) : Session → Writers → Prop
  | mounted : Recorded mounting (mount mounting) (Engine.mount mounting).firstWriters
  | stepped {session : Session} {writers : Writers} (step : HostStep)
      (recorded : Recorded mounting session writers) :
      Recorded mounting (session.step step) (session.writersAfter writers step)

/-- Keeping the record takes nothing away from what can be reached. -/
theorem Reachable.exists_recorded {mounting : Engine.Mounting} {session : Session}
    (reachable : Reachable mounting session) : ∃ writers, Recorded mounting session writers := by
  induction reachable with
  | mounted => exact ⟨_, .mounted⟩
  | stepped step _ _ ih =>
      obtain ⟨writers, recorded⟩ := ih
      exact ⟨_, .stepped step recorded⟩

theorem Recorded.tracked {mounting : Engine.Mounting} {session : Session} {writers : Writers}
    (recorded : Recorded mounting session writers) (named : WellNamed mounting.form.fields) :
    Engine.Tracked mounting.form.fields session.engine writers := by
  induction recorded with
  | mounted => exact .mount mounting named
  | stepped step _ ih =>
      cases step with
      | operate operation => exact ih.perform named operation
      | take => exact ih.takePending
      | complete ticket result => exact ih.completeFetch ticket result

/-- A flow whose value nothing but choices has written is complete if and only if it shows a text or
the step that was chosen last is behind the output step, in which case it shows none. The text that
is shown is the value of the output step. -/
theorem Recorded.complete_iff_shown {mounting : Engine.Mounting} {session : Session}
    {writers : Writers} (recorded : Recorded mounting session writers)
    (named : WellNamed mounting.form.fields) {path : FieldPath} {flow : Flow} {place : Context}
    (addresses : Addresses mounting.form.fields .root path.segments ⟨.flow flow, place⟩)
    (distinct : (flow.steps.map FlowStep.id).Nodup) (own : writers path ≠ .other) {text : String}
    (parsed : parse text = .ok path) :
    (session.engine.isFlowComplete text = true ↔
      (∃ shown, shown ≠ "" ∧ session.engine.value? text = some (.string shown)) ∨
        (writers path).IsPastOutput flow) ∧
    (∀ shown, shown ≠ "" → session.engine.value? text = some (.string shown) →
      ∃ state, session.engine.flowState? text = some state ∧
        state.value flow.outputStepId = shown) ∧
    ((writers path).IsPastOutput flow → ∀ shown,
      session.engine.value? text = some (.string shown) → shown = "") := by
  have tracked := recorded.tracked named
  have tracks := tracked.tracks path flow place addresses distinct
  rw [← tracked.orderly.form] at addresses
  obtain ⟨complete, output, hidden⟩ := tracks.stands.agrees own tracks.value_of_strange
  refine ⟨?_, fun shown filled holds => ?_, fun past shown holds => ?_⟩
  · rw [Engine.isFlowComplete_iff parsed addresses, complete, Option.ne_none_iff_exists']
    simp only [Engine.shown?_eq_some_iff parsed]
  · have value := output shown ((Engine.shown?_eq_some_iff parsed).mpr ⟨filled, holds⟩)
    rw [← value] at filled ⊢
    exact Engine.exists_flowState? parsed filled
  · by_contra filled
    have shows := (Engine.shown?_eq_some_iff parsed).mpr ⟨filled, holds⟩
    rw [hidden past] at shows
    cases shows

/-- A city, which is the place, and a street in it. -/
def cityAndStreet : Flow where
  name := "place"
  label := none
  helpText := none
  validation := none
  showWhen := none
  steps := [⟨"city", "City", none, none, .dependingOn [], none⟩,
    ⟨"street", "Street", none, none, .dependingOn [], none⟩]
  outputStepId := "city"
  showAllSteps := false

def placeForm : Engine.Mounting := .ofFields [.flow cityAndStreet] (.object [])

def chooseCity : HostStep := .operate (.selectFlowStep "place" "city" "Rome")

def chooseStreet : HostStep := .operate (.selectFlowStep "place" "street" "Corso")

/-- The city is shown until a street is chosen, and the flow stays complete. -/
theorem street_keepsPlaceComplete :
    (∃ state, ((mount placeForm).step chooseCity).engine.flowState? "place" = some state ∧
      state.value "city" = "Rome") ∧
    (((mount placeForm).step chooseCity).step chooseStreet).engine.isFlowComplete "place" = true ∧
    ∀ shown, (((mount placeForm).step chooseCity).step chooseStreet).engine.value? "place" =
      some (.string shown) → shown = "" := by
  have inCity := Recorded.stepped chooseCity (@Recorded.mounted placeForm)
  have inStreet := Recorded.stepped chooseStreet inCity
  have named : WellNamed placeForm.form.fields := by decide +kernel
  have addresses : Addresses placeForm.form.fields .root (FieldPath.segments ⟨[.key "place"]⟩)
      ⟨.flow cityAndStreet, .root⟩ := .here rfl
  have distinct : (cityAndStreet.steps.map FlowStep.id).Nodup := by decide +kernel
  have parsed : FieldPath.parse "place" = .ok ⟨[.key "place"]⟩ := by decide +kernel
  have first : (mount placeForm).writersAfter (Engine.mount placeForm).firstWriters chooseCity
      ⟨[.key "place"]⟩ = .choice "city" := by decide +kernel
  have last : ((mount placeForm).step chooseCity).writersAfter
      ((mount placeForm).writersAfter (Engine.mount placeForm).firstWriters chooseCity) chooseStreet
      ⟨[.key "place"]⟩ = .choice "street" := by decide +kernel
  have ofCity : Writer.choice "city" ≠ .other := by decide
  have ofStreet : Writer.choice "street" ≠ .other := by decide
  rw [← first] at ofCity
  rw [← last] at ofStreet
  obtain ⟨_, output, _⟩ := inCity.complete_iff_shown named addresses distinct ofCity parsed
  obtain ⟨complete, _, hidden⟩ :=
    inStreet.complete_iff_shown named addresses distinct ofStreet parsed
  have past : (Writer.choice "street").IsPastOutput cityAndStreet :=
    ⟨1, 0, by decide +kernel, by decide +kernel, Nat.zero_lt_one⟩
  rw [last] at complete hidden
  exact ⟨output "Rome" (by decide) (by decide +kernel), complete.mpr (Or.inr past), hidden past⟩

/-- A flow that is named like the path of another one. -/
def twinPlaces : Engine.Mounting :=
  .ofFields
    [.flow { cityAndStreet with name := "items[0].place", steps := [] },
      .repeatable (.named "items") [.flow cityAndStreet]]
    (.object [("items", .array [.object []])])

def chooseTwin : HostStep := .operate (.selectFlowStep "items[0].place" "city" "Rome")

/-- A flow may be complete and show nothing, and with a twin it may show something and not be
complete. -/
theorem complete_not_iff_shown :
    (cityAndStreet.steps.map FlowStep.id).Nodup ∧
    ¬((((mount placeForm).step chooseCity).step chooseStreet).engine.isFlowComplete "place" = true ↔
      ∃ shown, shown ≠ "" ∧ (((mount placeForm).step chooseCity).step chooseStreet).engine.value?
        "place" = some (.string shown)) ∧
    ¬(((mount twinPlaces).step chooseTwin).engine.isFlowComplete "items[0].place" = true ↔
      ∃ shown, shown ≠ "" ∧ ((mount twinPlaces).step chooseTwin).engine.value? "items[0].place" =
        some (.string shown)) := by
  refine ⟨by decide +kernel, fun agree => ?_, fun agree => ?_⟩
  · have complete : (((mount placeForm).step chooseCity).step chooseStreet).engine.isFlowComplete
        "place" = true := by decide +kernel
    have nothing : (((mount placeForm).step chooseCity).step chooseStreet).engine.value? "place" =
        none := by decide +kernel
    obtain ⟨shown, _, holds⟩ := agree.mp complete
    rw [nothing] at holds
    cases holds
  · have shows : ((mount twinPlaces).step chooseTwin).engine.value? "items[0].place" =
        some (.string "Rome") := by decide +kernel
    have incomplete : ((mount twinPlaces).step chooseTwin).engine.isFlowComplete "items[0].place" =
        false := by decide +kernel
    have complete := agree.mpr ⟨"Rome", by decide, shows⟩
    rw [incomplete] at complete
    cases complete

end Session

end DeclarativeForm
