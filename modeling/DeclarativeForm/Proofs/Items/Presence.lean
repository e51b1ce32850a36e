import DeclarativeForm.Proofs.Items.Missing
import DeclarativeForm.Proofs.Items.Removal
import DeclarativeForm.Proofs.Tree.Presence

/-!
Tables without leftovers. The errors and the states of flows are attached to the items of a form
when each of them is kept for a place that is there. Validation of the form and bringing fields up
to date come to such places only, and the removal of an item takes along what was kept for it. A
path through a missing item and a write that takes items away leave entries behind; a host that
heeds both finds the tables attached in every session.
-/

set_option autoImplicit false

namespace DeclarativeForm

open FieldPath

/-! ### Errors that are found -/

namespace Snapshot

variable {fields : List Node} {snapshot : Snapshot}

theorem Reports.isPresent {visit : Visit} {key message : String} {values : Json}
    (reports : snapshot.Reports visit key message)
    (addresses : Addresses fields .root visit.path.segments ⟨visit.node, visit.context⟩)
    (isThere : Indexed visit.path.segments values) : IsPresent fields values key := by
  cases reports with
  | leaf fails => exact addresses.isPresent rfl isThere
  | count violated => exact addresses.isPresent rfl isThere
  | rules declared fails => exact addresses.isPresent rfl isThere
  | step member unmet => exact addresses.isPresent_step isThere _

theorem present_validateNodes (named : WellNamed fields) {nodes : List Node}
    (portion : IsPortion nodes fields) :
    Keyed.Within (IsPresent fields snapshot.values) (snapshot.validateNodes nodes) := by
  refine .ofList fun entry member => ?_
  obtain ⟨visit, visited, isError⟩ := List.mem_flatMap.mp member
  have reports := mem_errorsOf_iff.mp isError
  have inNodes := (walk_sublist snapshot.values .root nodes).subset visited
  obtain ⟨addresses, complete⟩ :=
    addresses_of_mem_walk named (portion.walk_subset _ _ inNodes) reports.single
  exact reports.isPresent addresses (indexed_of_missingItem? complete)

theorem present_validateLocated {segments : List Segment} {located : Located}
    (addresses : Addresses fields .root segments located)
    (isThere : Indexed segments snapshot.values) :
    Keyed.Within (IsPresent fields snapshot.values) (snapshot.validateLocated located) := by
  have path : (visitOf located).path = ⟨segments⟩ := addresses.pathFor_eq
  rw [validateLocated]
  split
  · refine .ofList fun entry member => (mem_errorsOf_iff.mp member).isPresent ?_ ?_
    · rw [path]
      exact addresses
    · rw [path]
      exact isThere
  · exact .nil _

end Snapshot

/-! ### Heed -/

def Engine.Reaches (engine : Engine) (text : String) : Prop :=
  ∀ path, parse text = .ok path → missingItem? path engine.values = none

/-- A host does not check, fill in or choose anything below an item that is not there, and what it
writes to a repeatable takes no items away. A repeatable that it removes an item from holds no more
of them than there are indices. -/
def Engine.Heeds (engine : Engine) : HostOperation → Prop
  | .blur text => engine.Reaches text
  | .validateField text => engine.Reaches text
  | .addItem text => engine.Reaches text
  | .selectFlowStep text _ _ => engine.Reaches text
  | .setValue text value => ∀ path head template place,
      engine.locate text = .ok (path, ⟨.repeatable head template, place⟩) →
      RetainsItems engine.form.fields engine.values (path.set engine.values value)
  | .removeItem text _ => ∀ path, parse text = .ok path →
      itemCount path engine.values ≤ indexLimit
  | _ => True

theorem Engine.Reaches.indexed {engine : Engine} {text : String} {path : FieldPath}
    {located : Located} (reaches : engine.Reaches text)
    (found : engine.locate text = .ok (path, located)) : Indexed path.segments engine.values :=
  indexed_of_missingItem? (reaches path (locate_eq_ok found).1)

/-! ### Items -/

theorem FieldPath.indexed_of_lt_itemCount {path : FieldPath} {values : Json} {index : Nat}
    (inRange : index < itemCount path values) : Indexed path.segments values := by
  refine indexed_iff.mpr fun front position back whole => ?_
  by_contra absent
  have missing : getAt (front ++ .index position :: back) values = none :=
    getAt_eq_none_of_missing (Nat.le_of_not_lt absent)
  rw [itemCount_eq, get?_eq, whole, missing] at inRange
  cases inRange

theorem Engine.withNewItem_values (engine : Engine) (path : FieldPath) (template : List Node) :
    (engine.withNewItem path template).values = path.set engine.values
      (.array (path.itemsAt engine.values ++ [initialValues template])) := by
  unfold withNewItem itemsAt values Store.value? Store.setValue
  dsimp only
  cases path.get? engine.store.values with
  | none => rfl
  | some value => cases value <;> rfl

/-! ### Work -/

/-- Errors and states of flows are kept for places that are there. -/
structure Engine.Attached (fields : List Node) (engine : Engine) : Prop where
  form : engine.form.fields = fields
  errors : Keyed.Within (IsPresent fields engine.values) engine.store.errors
  flows : Keyed.Within (IsPresent fields engine.values) engine.store.flows

namespace Engine.Attached

variable {fields : List Node} {engine after : Engine}

/-- Tables stay attached where no items are lost and nothing is recorded. -/
theorem retained (attached : engine.Attached fields) (form : after.form = engine.form)
    (retains : RetainsItems fields engine.values after.values)
    (errors : after.store.errors.Sublist engine.store.errors)
    (flows : after.store.flows = engine.store.flows) : after.Attached fields where
  form := form ▸ attached.form
  errors := (attached.errors.sublist errors).imp fun _ present => present.mono retains
  flows := flows ▸ attached.flows.imp fun _ present => present.mono retains

theorem congr (attached : engine.Attached fields) (form : after.form = engine.form)
    (values : after.values = engine.values) (errors : after.store.errors = engine.store.errors)
    (flows : after.store.flows = engine.store.flows) : after.Attached fields :=
  attached.retained form (values ▸ .refl _ _) (errors ▸ List.Sublist.refl _) flows

theorem emit (attached : engine.Attached fields) (event : Event) :
    (engine.emit event).Attached fields :=
  attached.congr rfl rfl rfl rfl

theorem withStatus (attached : engine.Attached fields) (status : Status) :
    ({ engine with status } : Engine).Attached fields :=
  attached.congr rfl rfl rfl rfl

theorem setError (attached : engine.Attached fields) {key : String}
    (present : IsPresent fields engine.values key) (message : String) :
    ({ engine with store := engine.store.setError key message } : Engine).Attached fields :=
  ⟨attached.form, attached.errors.put present message, attached.flows⟩

theorem putFlow (attached : engine.Attached fields) {key : String}
    (present : IsPresent fields engine.values key) (state : FlowState) :
    ({ engine with store := engine.store.putFlow key state } : Engine).Attached fields :=
  ⟨attached.form, attached.errors, attached.flows.put present state⟩

theorem syncFlow (attached : engine.Attached fields) {place : FlowPlace}
    (present : IsPresent fields engine.values place.path.text) :
    (engine.syncFlow place).Attached fields := by
  unfold Engine.syncFlow
  dsimp only
  split
  · exact attached
  · exact (attached.putFlow present _).congr rfl rfl rfl rfl

theorem syncFlows (attached : engine.Attached fields) (named : WellNamed fields) :
    engine.syncFlows.Attached fields := by
  let kept (other : Engine) : Prop := other.Attached fields ∧ other.values = engine.values
  refine (syncFlows_keep kept (fun other place member ⟨attachedStill, values⟩ => ?_)
    ⟨attached, rfl⟩).1
  rw [attached.form] at member
  obtain ⟨addresses, complete⟩ := addresses_of_mem_flowPlaces named member
  have present := addresses.isPresent rfl (indexed_of_missingItem? complete)
  rw [← values] at present
  exact ⟨attachedStill.syncFlow present, (other.syncFlow_keeps place).1.trans values⟩

theorem refreshDerived (attached : engine.Attached fields) (named : WellNamed fields)
    (touched : Option String) : (engine.refreshDerived touched).Attached fields := by
  have started := attached.syncFlows named
  have within := @syncPasses_within engine.syncFlows touched engine.syncFlows.passBound 0
    (started.form ▸ named)
  rw [started.form] at within
  refine started.retained (syncPasses_works touched _ 0 engine.syncFlows).form ?_
    (syncPasses_errors touched _ 0 engine.syncFlows) (syncPasses_flows touched _ 0 _)
  exact fun path head template place there =>
    Nat.le_of_eq (within.items path head template place there).symm

theorem refreshed (attached : engine.Attached fields) (named : WellNamed fields)
    (touched : Option String) : (engine.refreshDerived touched).emitChange.Attached fields :=
  (attached.refreshDerived named touched).emit _

/-! ### Operations -/

theorem locate (attached : engine.Attached fields) {text : String} {path : FieldPath}
    {located : Located} (found : engine.locate text = .ok (path, located)) :
    Addresses fields .root path.segments located := by
  rw [← attached.form]
  exact (locate_eq_ok found).2

theorem recordLocated (attached : engine.Attached fields) {segments : List Segment}
    {located : Located} (addresses : Addresses fields .root segments located)
    (isThere : Indexed segments engine.values) (key : String) :
    (engine.recordLocated key located).Attached fields := by
  have found : Keyed.Within (IsPresent fields engine.snapshot.values)
      (engine.snapshot.validateLocated located) :=
    Snapshot.present_validateLocated addresses isThere
  have values : (engine.recordLocated key located).values = engine.values :=
    recordErrors_values _ _ _
  have flows := (recordErrors_tables (keysOf key located.node)
    (engine.snapshot.validateLocated located) engine.store).2.1
  refine ⟨attached.form, ?_, ?_⟩
  · rw [values]
    exact Orderly.within_recordErrors attached.errors found.keys _
  · rw [values]
    exact flows ▸ attached.flows

theorem validateField (attached : engine.Attached fields) {text : String}
    (reaches : engine.Reaches text) : (engine.validateField text).1.Attached fields := by
  unfold Engine.validateField
  cases found : engine.locate text with
  | error rejection => exact attached
  | ok result => exact attached.recordLocated (attached.locate found) (reaches.indexed found) _

theorem blur (attached : engine.Attached fields) {text : String} (reaches : engine.Reaches text) :
    (engine.blur text).1.Attached fields := by
  unfold Engine.blur
  split
  · cases parsePath text <;> exact attached
  · exact attached.validateField reaches

theorem validateAll (attached : engine.Attached fields) (named : WellNamed fields) :
    engine.validateAll.Attached fields := by
  have portion : IsPortion engine.form.fields fields := attached.form ▸ List.Subset.refl _
  have found : Keyed.Within (IsPresent fields engine.snapshot.values)
      (engine.snapshot.validateNodes engine.form.fields) :=
    Snapshot.present_validateNodes named portion
  exact ⟨attached.form, found, attached.flows⟩

theorem validateStep (attached : engine.Attached fields) (named : WellNamed fields) :
    engine.validateStep.1.Attached fields := by
  rw [Engine.validateStep_eq]
  have portion : IsPortion engine.currentNodes fields :=
    attached.form ▸ engine.isPortion_currentNodes
  have found : Keyed.Within (IsPresent fields engine.snapshot.values)
      (engine.snapshot.validateNodes engine.currentNodes) :=
    Snapshot.present_validateNodes named portion
  refine ⟨attached.form, ?_, attached.flows⟩
  refine (attached.errors.sublist List.filter_sublist).putAll _ fun entry member => ?_
  exact found.keys entry.1 (List.mem_map_of_mem member)

theorem move (attached : engine.Attached fields) (navigator : Navigator)
    (transition : Transition) : (engine.move navigator transition).Attached fields := by
  cases transition <;> exact attached.congr rfl rfl rfl rfl

theorem nextStep (attached : engine.Attached fields) (named : WellNamed fields) :
    engine.nextStep.1.Attached fields := by
  unfold Engine.nextStep
  split
  · exact attached
  · have validated := attached.validateStep named
    dsimp only
    split
    · exact validated
    · exact validated.move _ _

theorem setValue (attached : engine.Attached fields) (named : WellNamed fields) {text : String}
    {value : Json} (heeds : engine.Heeds (.setValue text value)) :
    (engine.setValue text value).1.Attached fields := by
  have reached := engine.setValue_write text value
  generalize engine.setValue text value = result at reached ⊢
  cases reached with
  | refused rejection => exact attached
  | @written path located found complete =>
      have addresses := attached.locate found
      have isThere := indexed_of_missingItem? complete
      have retains : RetainsItems fields engine.values (path.set engine.values value) := by
        by_cases isList : ∃ head template, located.node = .repeatable head template
        · obtain ⟨node, context⟩ := located
          obtain ⟨head, template, rfl⟩ := isList
          exact attached.form ▸ heeds path head template context found
        · exact (setAt_edited addresses.endsInKey isThere value).retainsItems addresses
            fun isThere => absurd isThere isList
      let written : Engine := { engine with store := engine.store.setValue path value }
      have attachedStill : written.Attached fields :=
        attached.retained rfl retains (Keyed.erase_sublist _ _) rfl
      refine refreshed ?_ named _
      unfold withValue
      dsimp only
      split
      · refine attachedStill.recordLocated addresses ?_ _
        exact isThere.retained (fun _ _ _ whole => addresses.exists_list whole) retains
      · exact attachedStill

theorem addItem (attached : engine.Attached fields) (named : WellNamed fields) {text : String}
    (reaches : engine.Reaches text) : (engine.addItem text).1.Attached fields := by
  have reached := engine.addItem_addition text
  generalize engine.addItem text = result at reached ⊢
  cases reached with
  | refused rejection => exact attached
  | most found message rejection =>
      exact attached.setError ((attached.locate found).isPresent rfl (reaches.indexed found)) _
  | @added path head template place found =>
      have addresses := attached.locate found
      have retains : RetainsItems fields engine.values
          (engine.withNewItem path template).values := by
        rw [withNewItem_values]
        exact retainsItems_append addresses (reaches.indexed found) _
      have written : (engine.withNewItem path template).Attached fields :=
        attached.retained rfl retains (Keyed.erase_sublist _ _) rfl
      exact written.refreshed named _

/-- What was kept for an item goes with it, and the rest moves to where its place is now. -/
theorem withoutItem (attached : engine.Attached fields) (named : WellNamed fields)
    {path : FieldPath} {head : Repeatable} {template : List Node} {place : Context} {index : Nat}
    (isList : Addresses fields .root path.segments ⟨.repeatable head template, place⟩)
    (inRange : index < itemCount path engine.values)
    (fits : itemCount path engine.values ≤ indexLimit) :
    (engine.withoutItem path index).Attached fields := by
  obtain ⟨items, isThere, inside, count⟩ := exists_items inRange
  -- Beyond the last index keys would not be read as such, and so would not move.
  have erased := withoutItem_erased isThere inside (count ▸ fits)
  have kept (key moved : String) (present : IsPresent fields engine.values key)
      (moves : reindexKey key path.text index = some moved) :
      IsPresent fields (engine.withoutItem path index).values moved :=
    present.reindexKey named isList erased moves
  exact ⟨attached.form, (attached.errors.reindex kept).erase _, attached.flows.reindex kept⟩

theorem removeItem (attached : engine.Attached fields) (named : WellNamed fields) {text : String}
    {index : Nat} (heeds : engine.Heeds (.removeItem text index)) :
    (engine.removeItem text index).1.Attached fields := by
  have reached := engine.removeItem_removal text index
  generalize same : engine.removeItem text index = result at reached ⊢
  cases reached with
  | refused rejection => exact attached
  | @least path head template place found message rejection =>
      by_cases inRange : index < itemCount path engine.values
      · have isThere := indexed_of_lt_itemCount inRange
        exact attached.setError ((attached.locate found).isPresent rfl isThere) message
      · rw [removeItem_of_absent found (Nat.le_of_not_lt inRange)] at same
        exact congrArg Prod.fst same ▸ attached
  | removed found inRange =>
      have fits := heeds _ (locate_eq_ok found).1
      exact (attached.withoutItem named (attached.locate found) inRange fits).refreshed named _

theorem withChoice (attached : engine.Attached fields) {path : FieldPath} {flow : Flow}
    {context : Context} (addresses : Addresses fields .root path.segments ⟨.flow flow, context⟩)
    (isThere : Indexed path.segments engine.values) (id value : String) (progress : FlowProgress)
    (change : FlowChange) :
    (engine.withChoice path flow id value progress change).Attached fields := by
  have put := attached.putFlow (addresses.isPresent rfl isThere) progress.state
  have values := applyFlowChange_values (engine.store.putFlow path.text progress.state) path flow id
    value change
  have single {after : Json} (edited : Edited path.segments engine.values after) :
      RetainsItems fields engine.values after := by
    refine edited.retainsItems addresses ?_
    rintro ⟨_, _, impossible⟩
    cases impossible
  have retains : RetainsItems fields engine.values
      (engine.withChoice path flow id value progress change).values := by
    change RetainsItems fields engine.values
      (applyFlowChange (engine.store.putFlow path.text progress.state) path flow id value
        change).values
    rw [values]
    cases change.output with
    | some output => exact single (setAt_edited addresses.endsInKey isThere _)
    | none =>
        change RetainsItems fields engine.values (path.without engine.values)
        by_cases absent : path.get? engine.values = none
        · rw [without_eq_self absent]
          exact .refl _ _
        · exact single (without_edited addresses.endsInKey absent)
  have isStep := (addresses.isPresent_step isThere id).mono retains
  have flows := (applyFlowChange_tables (engine.store.putFlow path.text progress.state) path flow id
    value change).2.1
  refine ⟨attached.form, ?_, ?_⟩
  · have errors := put.errors.imp fun _ present => present.mono retains
    exact Orderly.within_applyFlowChange errors flow isStep value change
  · exact flows ▸ put.flows.imp fun _ present => present.mono retains

theorem selectFlowStep (attached : engine.Attached fields) (named : WellNamed fields)
    {text : String} (id value : String) (reaches : engine.Reaches text) :
    (engine.selectFlowStep text id value).1.Attached fields := by
  have reached := engine.selectFlowStep_choice text id value
  generalize engine.selectFlowStep text id value = result at reached ⊢
  cases reached with
  | refused rejection => exact attached
  | @ignored path flow place started state found starts present selection unapplied =>
      have isPresent := (attached.locate found).isPresent rfl (reaches.indexed found)
      subst starts
      refine (attached.syncFlow isPresent).putFlow ?_ state
      rw [(engine.syncFlow_keeps _).1]
      exact isPresent
  | @applied path flow place started state index progress change found starts present
      isStep enabled chosen tickets output =>
      have addresses := attached.locate found
      have isThere := reaches.indexed found
      subst starts
      have isPresent := addresses.isPresent rfl isThere
      have started : (engine.syncFlow ⟨path, flow, place⟩).Attached fields :=
        attached.syncFlow isPresent
      rw [← (engine.syncFlow_keeps ⟨path, flow, place⟩).1] at isThere
      exact (started.withChoice addresses isThere id value progress change).refreshed named _

theorem refreshOptions (attached : engine.Attached fields) (text : String) :
    (engine.refreshOptions text).1.Attached fields := by
  unfold Engine.refreshOptions
  cases engine.locate text with
  | error rejection => exact attached
  | ok found =>
      dsimp only
      split <;> exact attached.congr rfl rfl rfl rfl

theorem reset (attached : engine.Attached fields) (named : WellNamed fields) :
    engine.reset.Attached fields := by
  have emptied : engine.emptied.Attached fields := ⟨attached.form, .nil _, .nil _⟩
  rw [reset_eq]
  exact emptied.refreshed named none

theorem submit (attached : engine.Attached fields) (named : WellNamed fields)
    (handler : Json → Except String Unit) : (engine.submit handler).engine.Attached fields := by
  have validated := attached.validateAll named
  unfold Engine.submit
  dsimp only
  split
  · exact validated.congr rfl rfl rfl rfl
  · unfold finishSubmitting conclude
    cases handler engine.validateAll.startSubmitting.values with
    | error cause => exact validated.congr rfl rfl rfl rfl
    | ok _ =>
        let answered : Engine :=
          { engine.validateAll.startSubmitting with
            store := { engine.validateAll.startSubmitting.store with submitting := false } }
        have started : answered.Attached fields := validated.congr rfl rfl rfl rfl
        exact ((started.reset named).withStatus _).emit _

theorem perform (attached : engine.Attached fields) (named : WellNamed fields)
    {operation : HostOperation} (heeds : engine.Heeds operation) :
    (engine.perform operation).1.Attached fields := by
  cases operation with
  | setValue text value => exact attached.setValue named heeds
  | blur text => exact attached.blur heeds
  | validateField text => exact attached.validateField heeds
  | validateAll => exact attached.validateAll named
  | validateStep => exact attached.validateStep named
  | addItem text => exact attached.addItem named heeds
  | removeItem text index => exact attached.removeItem named heeds
  | selectFlowStep text id value => exact attached.selectFlowStep named id value heeds
  | refreshOptions text => exact attached.refreshOptions text
  | nextStep => exact attached.nextStep named
  | previousStep => exact attached.move _ _
  | toggleDropdown key => exact attached.congr rfl rfl rfl rfl
  | closeDropdowns => exact attached.congr rfl rfl rfl rfl
  | togglePassword key => exact attached.congr rfl rfl rfl rfl
  | reset => exact attached.reset named
  | submit handler => exact attached.submit named handler

theorem completeFetch (attached : engine.Attached fields) (ticket : Ticket)
    (result : FetchResult) : (engine.completeFetch ticket result).1.Attached fields := by
  unfold Engine.completeFetch
  cases taken : engine.store.complete ticket result with
  | none => exact attached
  | some store =>
      rcases Store.complete_put taken with
        ⟨key, old, slot, isThere, rfl⟩ | ⟨key, old, state, isThere, rfl⟩
      · exact attached.congr rfl rfl rfl rfl
      · exact ⟨attached.form, attached.errors, attached.flows.replace isThere state⟩

theorem mount (mounting : Mounting) (named : WellNamed mounting.form.fields) :
    (Engine.mount mounting).Attached mounting.form.fields := by
  have blank : (unfolded mounting).Attached mounting.form.fields := ⟨rfl, .nil _, .nil _⟩
  exact blank.refreshDerived named none

end Engine.Attached

/-! ### Sessions -/

namespace Session

def Heeds (session : Session) : HostStep → Prop
  | .operate operation => session.engine.Heeds operation
  | .take => True
  | .complete _ _ => True

inductive Careful (mounting : Engine.Mounting) : Session → Prop
  | mounted : Careful mounting (mount mounting)
  | stepped {session : Session} (step : HostStep) (careful : Careful mounting session)
      (heeds : session.Heeds step) : Careful mounting (session.step step)

theorem Careful.attached {mounting : Engine.Mounting} {session : Session}
    (careful : Careful mounting session) (named : WellNamed mounting.form.fields) :
    session.engine.Attached mounting.form.fields := by
  induction careful with
  | mounted => exact .mount mounting named
  | stepped step _ heeds ih =>
      cases step with
      | operate operation => exact ih.perform named heeds
      | take => exact ih.congr rfl rfl rfl rfl
      | complete ticket result => exact ih.completeFetch ticket result

end Session

end DeclarativeForm
