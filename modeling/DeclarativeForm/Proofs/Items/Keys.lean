import DeclarativeForm.Proofs.Sync.Repeat
import DeclarativeForm.Proofs.Validation.Portion

/-!
The keys a host comes across. In every session all errors, slots, flows and queued tickets are kept
under texts of paths of the form: an operation adds entries for what it has located or visited, and
the removal of an item moves keys to keys.
-/

set_option autoImplicit false

namespace DeclarativeForm

open FieldPath

/-! ### Paths of flows and bindings -/

section Paths

variable {fields : List Node} {values : Json} (named : WellNamed fields)

include named

theorem addresses_of_mem_flowPlaces {place : FlowPlace}
    (member : place ∈ flowPlaces fields values) :
    Addresses fields .root place.path.segments ⟨.flow place.flow, place.context⟩ ∧
      missingItem? place.path values = none := by
  obtain ⟨visit, visited, made⟩ := List.mem_filterMap.mp member
  obtain ⟨node, path, context⟩ := visit
  cases node with
  | flow flow =>
      cases made
      exact addresses_of_mem_walk named visited rfl
  | leaf field => cases made
  | group head inner => cases made
  | repeatable head template => cases made

theorem isKeyPath_of_mem_flowPlaces {place : FlowPlace}
    (member : place ∈ flowPlaces fields values) : IsKeyPath fields place.path :=
  .node (addresses_of_mem_flowPlaces named member).1 rfl

theorem isKeyPath_of_mem_bindings {binding : OptionBinding}
    (member : binding ∈ optionBindings fields values) : IsKeyPath fields binding.path := by
  obtain ⟨place, isAt⟩ := isAt_of_mem member
  exact .node (isAt.addresses named) rfl

end Paths

/-! ### Keys of an engine -/

def FetchTarget.owner : FetchTarget → String
  | field path => path
  | flowStep path _ => path

/-- The tables of an engine and its queue are keyed by paths of a form. Marks of passwords are under
keys of the host, whatever these are. -/
structure Engine.Orderly (fields : List Node) (engine : Engine) : Prop where
  form : engine.form.fields = fields
  errors : Keyed.Within (IsKey fields) engine.store.errors
  slots : Keyed.Within (IsKey fields) engine.store.slots
  flows : Keyed.Within (IsKey fields) engine.store.flows
  passwords : Keyed.Distinct engine.store.shownPasswords
  pending : ∀ ticket ∈ engine.pending, IsKey fields ticket.target.owner

/-! ### Errors that are found -/

namespace Snapshot

variable {fields : List Node} {snapshot : Snapshot}

theorem within_validateNodes (named : WellNamed fields) {nodes : List Node}
    (portion : IsPortion nodes fields) :
    Keyed.Within (IsKey fields) (snapshot.validateNodes nodes) :=
  ⟨Keyed.distinct_ofList _, fun _ member =>
    ((portion.isKey_iff named).mp (portion.isKey_of_mem_validateNodes named member)).1⟩

theorem within_validateLocated {segments : List Segment} {located : Located}
    (addresses : Addresses fields .root segments located) :
    Keyed.Within (IsKey fields) (snapshot.validateLocated located) := by
  rw [validateLocated]
  split
  · refine .ofList fun entry member => (mem_errorsOf_iff.mp member).isKey ?_
    have path : (visitOf located).path = ⟨segments⟩ := addresses.pathFor_eq
    rw [path]
    exact addresses
  · exact .nil _

end Snapshot

/-! ### Tickets of flows -/

def FlowProgress.IsFor (key : String) (progress : FlowProgress) : Prop :=
  ∀ ticket ∈ progress.tickets, ticket.target.owner = key

namespace FlowProgress.IsFor

variable {key : String} {progress : FlowProgress}

theorem request (isFor : progress.IsFor key) (step : FlowStep) (args : List Json) :
    (progress.request key step args).IsFor key := by
  unfold FlowProgress.request
  split
  · exact isFor
  · intro ticket member
    rcases List.mem_append.mp member with old | new
    · exact isFor ticket old
    · rw [(OptionsSlot.mem_ticket new).1]
      rfl

theorem clear (isFor : progress.IsFor key) (id : String) : (progress.clear id).IsFor key := isFor

theorem foldl {step : FlowProgress → FlowStep → FlowProgress} (isFor : progress.IsFor key)
    (kept : ∀ progress item, progress.IsFor key → (step progress item).IsFor key)
    (steps : List FlowStep) : (steps.foldl step progress).IsFor key := by
  induction steps generalizing progress with
  | nil => exact isFor
  | cons item rest ih => exact ih (kept progress item isFor)

end FlowProgress.IsFor

theorem Flow.start_isFor (flow : Flow) (key : String) (scope : Scope) (next : Nat) :
    (flow.start key scope next).IsFor key := by
  have none {state : FlowState} : FlowProgress.IsFor key ⟨state, [], next⟩ :=
    fun _ member => nomatch member
  unfold start
  dsimp only
  split
  · exact none
  · split
    · exact none.request _ _
    · exact none

theorem Flow.choose_isFor (flow : Flow) (key : String) (state : FlowState) (index : Nat)
    (id value : String) (scope : Scope) (next : Nat) :
    (flow.choose key state index id value scope next).IsFor key := by
  have chosen : FlowProgress.IsFor key
      ⟨state.modifyStep id fun step => { step with value }, [], next⟩ :=
    fun _ member => nomatch member
  have emptied := chosen.foldl (fun _ step isFor => isFor.clear step.id)
    (flow.steps.drop (index + 1))
  unfold choose
  dsimp only
  split
  · exact emptied
  · exact emptied.foldl (fun _ step isFor => isFor.request step _) _

/-! ### Work -/

namespace Engine.Orderly

variable {fields : List Node} {engine after : Engine}

theorem congr (orderly : engine.Orderly fields) (form : after.form = engine.form)
    (errors : after.store.errors = engine.store.errors)
    (slots : after.store.slots = engine.store.slots)
    (flows : after.store.flows = engine.store.flows)
    (passwords : after.store.shownPasswords = engine.store.shownPasswords)
    (pending : after.pending = engine.pending) : after.Orderly fields := by
  refine ⟨?_, ?_, ?_, ?_, ?_, ?_⟩
  · rw [form]
    exact orderly.form
  · rw [errors]
    exact orderly.errors
  · rw [slots]
    exact orderly.slots
  · rw [flows]
    exact orderly.flows
  · rw [passwords]
    exact orderly.passwords
  · rw [pending]
    exact orderly.pending

theorem withErrors (orderly : engine.Orderly fields) (form : after.form = engine.form)
    (errors : Keyed.Within (IsKey fields) after.store.errors)
    (slots : after.store.slots = engine.store.slots)
    (flows : after.store.flows = engine.store.flows)
    (passwords : after.store.shownPasswords = engine.store.shownPasswords)
    (pending : after.pending = engine.pending) : after.Orderly fields := by
  have same : ({ after with store := { after.store with errors := engine.store.errors } } :
      Engine).Orderly fields := orderly.congr form rfl slots flows passwords pending
  exact ⟨same.form, errors, same.slots, same.flows, same.passwords, same.pending⟩

theorem emitChange (orderly : engine.Orderly fields) : engine.emitChange.Orderly fields :=
  orderly.congr rfl rfl rfl rfl rfl rfl

theorem withStatus (orderly : engine.Orderly fields) (status : Status) :
    ({ engine with status } : Engine).Orderly fields :=
  orderly.congr rfl rfl rfl rfl rfl rfl

theorem emit (orderly : engine.Orderly fields) (event : Event) :
    (engine.emit event).Orderly fields :=
  orderly.congr rfl rfl rfl rfl rfl rfl

theorem note (orderly : engine.Orderly fields) (notices : List Notice) :
    (engine.note notices).Orderly fields :=
  orderly.congr rfl rfl rfl rfl rfl rfl

theorem requestOptions (orderly : engine.Orderly fields) {key : String} (isKey : IsKey fields key)
    (source : OptionsSource) (args : Option (List Json)) (force : Bool) :
    (engine.requestOptions key source args force).1.Orderly fields where
  form := orderly.form
  errors := orderly.errors
  slots := orderly.slots.put isKey _
  flows := orderly.flows
  passwords := orderly.passwords
  pending := by
    intro ticket member
    rcases List.mem_append.mp member with old | new
    · exact orderly.pending ticket old
    · rw [(OptionsSlot.mem_ticket new).1]
      exact isKey

theorem takeProgress (orderly : engine.Orderly fields) {key : String} (isKey : IsKey fields key)
    {progress : FlowProgress} (isFor : progress.IsFor key) :
    (engine.takeProgress key progress).Orderly fields where
  form := orderly.form
  errors := orderly.errors
  slots := orderly.slots
  flows := orderly.flows.put isKey _
  passwords := orderly.passwords
  pending := by
    intro ticket member
    rcases List.mem_append.mp member with old | new
    · exact orderly.pending ticket old
    · rw [isFor ticket new]
      exact isKey

theorem syncFlow (orderly : engine.Orderly fields) {place : FlowPlace}
    (isKey : IsKey fields place.path.text) : (engine.syncFlow place).Orderly fields := by
  unfold Engine.syncFlow
  dsimp only
  split
  · exact orderly
  · exact orderly.takeProgress isKey (place.flow.start_isFor _ _ _)

theorem syncFlows (orderly : engine.Orderly fields) (named : WellNamed fields) :
    engine.syncFlows.Orderly fields := by
  refine syncFlows_keep (Orderly fields) (fun other place member orderlyStill => ?_) orderly
  rw [orderly.form] at member
  exact orderlyStill.syncFlow ⟨place.path, isKeyPath_of_mem_flowPlaces named member, rfl⟩

theorem syncPass (orderly : engine.Orderly fields) (touched : Option String)
    {bindings : List OptionBinding} (areKeys : ∀ binding ∈ bindings, IsKey fields binding.key) :
    (Engine.syncPass touched engine bindings).1.Orderly fields := by
  have asked : (bindings.foldl (requestBinding touched) (engine, [])).1.Orderly fields :=
    foldl_requestBinding_keep (Orderly fields) (fun _ binding member orderlyStill =>
      orderlyStill.requestOptions (areKeys binding member) _ _ _) orderly
  have errors := orderly.errors.sublist (syncPass_errors touched engine bindings)
  unfold Engine.syncPass at errors ⊢
  dsimp only at errors ⊢
  generalize bindings.foldl (requestBinding touched) (engine, []) = state at asked errors ⊢
  obtain ⟨slots, flows, _⟩ := foldl_applyClearing_tables state.2 (state.1.store, false)
  have passwords := foldl_applyClearing_keeps Store.shownPasswords (fun _ _ _ => rfl) state.2
    (state.1.store, false)
  exact asked.withErrors rfl errors slots flows passwords rfl

theorem syncPasses (orderly : engine.Orderly fields) (named : WellNamed fields)
    (touched : Option String) (fuel passes : Nat) :
    (Engine.syncPasses touched fuel passes engine).Orderly fields := by
  refine syncPasses_keep (Orderly fields) (fun _ notices noted => noted.note notices)
    (fun other orderlyStill => ?_) fuel passes orderly
  refine orderlyStill.syncPass touched fun binding member => ?_
  rw [orderlyStill.form] at member
  exact ⟨binding.path, isKeyPath_of_mem_bindings named member, rfl⟩

theorem refreshDerived (orderly : engine.Orderly fields) (named : WellNamed fields)
    (touched : Option String) : (engine.refreshDerived touched).Orderly fields :=
  (orderly.syncFlows named).syncPasses named touched _ 0

theorem refreshed (orderly : engine.Orderly fields) (named : WellNamed fields)
    (touched : Option String) : (engine.refreshDerived touched).emitChange.Orderly fields :=
  (orderly.refreshDerived named touched).emitChange

/-! ### Operations -/

theorem locate (orderly : engine.Orderly fields) {text : String} {path : FieldPath}
    {located : Located} (found : engine.locate text = .ok (path, located)) :
    Addresses fields .root path.segments located := by
  rw [← orderly.form]
  exact (locate_eq_ok found).2

theorem within_recordErrors {allowed : String → Prop} {store : Store}
    (within : Keyed.Within allowed store.errors) {errors : ErrorMap}
    (found : ∀ key ∈ Keyed.keys errors, allowed key) (keys : List String) :
    Keyed.Within allowed (recordErrors store keys errors).errors := by
  unfold recordErrors
  induction keys generalizing store with
  | nil => exact within
  | cons key rest ih =>
      rw [List.foldl_cons]
      cases isError : errors.find? key with
      | none => exact ih (within.erase key)
      | some message =>
          exact ih (within.put (found key (Keyed.mem_keys_of_find? isError)) message)

theorem recordLocated (orderly : engine.Orderly fields) {segments : List Segment}
    {located : Located} (addresses : Addresses fields .root segments located) (key : String) :
    (engine.recordLocated key located).Orderly fields := by
  have found : Keyed.Within (IsKey fields) (engine.snapshot.validateLocated located) :=
    Snapshot.within_validateLocated addresses
  have tables := recordErrors_tables (keysOf key located.node)
    (engine.snapshot.validateLocated located) engine.store
  have passwords := recordErrors_keeps Store.shownPasswords (fun _ _ => rfl)
    (keysOf key located.node) (engine.snapshot.validateLocated located) engine.store
  exact orderly.withErrors rfl (within_recordErrors orderly.errors found.keys _) tables.1 tables.2.1
    passwords rfl

theorem setValue (orderly : engine.Orderly fields) (named : WellNamed fields) (text : String)
    (value : Json) : (engine.setValue text value).1.Orderly fields := by
  have reached := engine.setValue_write text value
  generalize engine.setValue text value = result at reached ⊢
  cases reached with
  | refused rejection => exact orderly
  | @written path located found complete =>
      have written : ({ engine with store := engine.store.setValue path value } :
          Engine).Orderly fields :=
        orderly.withErrors rfl (orderly.errors.erase _) rfl rfl rfl rfl
      refine Orderly.refreshed ?_ named _
      unfold withValue
      dsimp only
      split
      · exact written.recordLocated (orderly.locate found) _
      · exact written

theorem validateField (orderly : engine.Orderly fields) (text : String) :
    (engine.validateField text).1.Orderly fields := by
  unfold Engine.validateField
  cases found : engine.locate text with
  | error rejection => exact orderly
  | ok result => exact orderly.recordLocated (orderly.locate found) _

theorem blur (orderly : engine.Orderly fields) (text : String) :
    (engine.blur text).1.Orderly fields := by
  unfold Engine.blur
  split
  · cases parsePath text <;> exact orderly
  · exact orderly.validateField text

theorem validateAll (orderly : engine.Orderly fields) (named : WellNamed fields) :
    engine.validateAll.Orderly fields := by
  have found : Keyed.Within (IsKey fields) (engine.snapshot.validateAll fields) :=
    Snapshot.within_validateNodes named (List.Subset.refl _)
  refine orderly.withErrors rfl ?_ rfl rfl rfl rfl
  rw [← orderly.form] at found ⊢
  exact found

theorem validateStep (orderly : engine.Orderly fields) (named : WellNamed fields) :
    engine.validateStep.1.Orderly fields := by
  rw [Engine.validateStep_eq]
  have portion := engine.isPortion_currentNodes
  rw [orderly.form] at portion
  have found : Keyed.Within (IsKey fields) (engine.snapshot.validateNodes engine.currentNodes) :=
    Snapshot.within_validateNodes named portion
  refine orderly.withErrors rfl ?_ rfl rfl rfl rfl
  refine (orderly.errors.sublist List.filter_sublist).putAll _ fun entry member => ?_
  exact found.keys entry.1 (List.mem_map_of_mem member)

theorem move (orderly : engine.Orderly fields) (navigator : Navigator)
    (transition : Transition) : (engine.move navigator transition).Orderly fields := by
  cases transition <;> exact orderly.congr rfl rfl rfl rfl rfl rfl

theorem nextStep (orderly : engine.Orderly fields) (named : WellNamed fields) :
    engine.nextStep.1.Orderly fields := by
  unfold Engine.nextStep
  split
  · exact orderly
  · have validated := orderly.validateStep named
    dsimp only
    split
    · exact validated
    · exact validated.move _ _

theorem addItem (orderly : engine.Orderly fields) (named : WellNamed fields) (text : String) :
    (engine.addItem text).1.Orderly fields := by
  have reached := engine.addItem_addition text
  generalize engine.addItem text = result at reached ⊢
  cases reached with
  | refused rejection => exact orderly
  | most found message rejection =>
      have isKey := (orderly.locate found).isKey rfl
      exact orderly.withErrors rfl (orderly.errors.put isKey message) rfl rfl rfl rfl
  | @added path head template place found =>
      have written : (engine.withNewItem path template).Orderly fields :=
        orderly.withErrors rfl (orderly.errors.erase _) rfl rfl rfl rfl
      exact written.refreshed named _

/-- What is kept for items stays keyed by paths of the form when an item is removed. -/
theorem withoutItem (orderly : engine.Orderly fields) (named : WellNamed fields)
    {repeatable : FieldPath} {head : Repeatable} {template : List Node} {place : Context}
    (isList : Addresses fields .root repeatable.segments ⟨.repeatable head template, place⟩)
    (index : Nat) : (engine.withoutItem repeatable index).Orderly fields := by
  have kept : ∀ key moved, IsKey fields key → reindexKey key repeatable.text index = some moved →
      IsKey fields moved := fun key moved isKey moves => isKey.reindexKey named isList moves
  refine ⟨orderly.form, ?_, ?_, ?_, Keyed.distinct_reindex _ _ _, ?_⟩
  · exact (orderly.errors.reindex kept).erase _
  · exact orderly.slots.reindex kept
  · exact orderly.flows.reindex kept
  · intro ticket member
    obtain ⟨old, isOld, retargeted⟩ := List.mem_filterMap.mp member
    obtain ⟨target, lands, rfl⟩ := Option.map_eq_some_iff.mp retargeted
    have isKey := orderly.pending old isOld
    cases isTarget : old.target with
    | field path =>
        rw [isTarget] at lands isKey
        obtain ⟨moved, moves, rfl⟩ := Option.map_eq_some_iff.mp lands
        exact kept path moved isKey moves
    | flowStep path step =>
        rw [isTarget] at lands isKey
        obtain ⟨moved, moves, rfl⟩ := Option.map_eq_some_iff.mp lands
        exact kept path moved isKey moves

theorem removeItem (orderly : engine.Orderly fields) (named : WellNamed fields) (text : String)
    (index : Nat) : (engine.removeItem text index).1.Orderly fields := by
  have reached := engine.removeItem_removal text index
  generalize engine.removeItem text index = result at reached ⊢
  cases reached with
  | refused rejection => exact orderly
  | least found message rejection =>
      have isKey := (orderly.locate found).isKey rfl
      exact orderly.withErrors rfl (orderly.errors.put isKey message) rfl rfl rfl rfl
  | removed found inRange =>
      exact (orderly.withoutItem named (orderly.locate found) index).refreshed named _

private theorem within_clearErrors {allowed : String → Prop} (keys : List String)
    (place : String → String) {store : Store} (within : Keyed.Within allowed store.errors) :
    Keyed.Within allowed
      (keys.foldl (fun store key => store.clearError (place key)) store).errors := by
  induction keys generalizing store with
  | nil => exact within
  | cons key rest ih => exact ih (within.erase _)

theorem within_applyFlowChange {allowed : String → Prop} {store : Store}
    (within : Keyed.Within allowed store.errors) {path : FieldPath} (flow : Flow) {id : String}
    (isStep : allowed (path.text ++ "." ++ id)) (value : String) (change : FlowChange) :
    Keyed.Within allowed (applyFlowChange store path flow id value change).errors := by
  unfold applyFlowChange
  apply within_clearErrors
  cases change.output with
  | some output =>
      have written : Keyed.Within allowed (store.setValue path (.string output)).errors :=
        within.erase _
      split
      · exact written.put isStep _
      · exact written.erase _
  | none =>
      split
      · exact within.put isStep _
      · exact within.erase _

theorem withChoice (orderly : engine.Orderly fields) {path : FieldPath} {flow : Flow}
    {context : Context} (addresses : Addresses fields .root path.segments ⟨.flow flow, context⟩)
    (id value : String) {progress : FlowProgress} {change : FlowChange}
    (tickets : change.tickets = progress.tickets) (isFor : progress.IsFor path.text) :
    (engine.withChoice path flow id value progress change).Orderly fields := by
  obtain ⟨slots, flows, _⟩ := applyFlowChange_tables
    (engine.store.putFlow path.text progress.state) path flow id value change
  have passwords := applyFlowChange_keeps Store.shownPasswords (fun _ _ _ => rfl)
    (engine.store.putFlow path.text progress.state) path flow id value change
  refine ⟨orderly.form, ?_, ?_, ?_, ?_, ?_⟩
  · have put : Keyed.Within (IsKey fields)
        (engine.store.putFlow path.text progress.state).errors := orderly.errors
    exact within_applyFlowChange put flow (addresses.isKey_step id) value change
  · exact slots ▸ orderly.slots
  · exact flows ▸ orderly.flows.put (addresses.isKey rfl) progress.state
  · exact passwords ▸ orderly.passwords
  · intro ticket member
    rcases List.mem_append.mp member with old | new
    · exact orderly.pending ticket old
    · rw [isFor ticket (tickets ▸ new)]
      exact addresses.isKey rfl

theorem selectFlowStep (orderly : engine.Orderly fields) (named : WellNamed fields)
    (text id value : String) : (engine.selectFlowStep text id value).1.Orderly fields := by
  have reached := engine.selectFlowStep_choice text id value
  generalize engine.selectFlowStep text id value = result at reached ⊢
  cases reached with
  | refused rejection => exact orderly
  | @ignored path flow place started state found starts present selection unapplied =>
      have isKey := (orderly.locate found).isKey rfl
      have started : started.Orderly fields := starts ▸ orderly.syncFlow isKey
      exact ⟨started.form, started.errors, started.slots, started.flows.put isKey _,
        started.passwords, started.pending⟩
  | @applied path flow place started state index progress change found starts present
      isStep enabled chosen tickets output =>
      have addresses := orderly.locate found
      have started : started.Orderly fields := starts ▸ orderly.syncFlow (addresses.isKey rfl)
      subst chosen
      refine Orderly.refreshed ?_ named _
      exact started.withChoice addresses id value tickets (Flow.choose_isFor _ _ _ _ _ _ _ _)

theorem refreshOptions (orderly : engine.Orderly fields) (named : WellNamed fields)
    (text : String) : (engine.refreshOptions text).1.Orderly fields := by
  unfold Engine.refreshOptions
  cases engine.locate text with
  | error rejection => exact orderly
  | ok found =>
      obtain ⟨path, located⟩ := found
      have noted := orderly.note (optionBindingNotices engine.form.fields engine.values)
      dsimp only
      split
      · exact noted
      · rename_i binding isFound
        have member := List.mem_of_find?_eq_some isFound
        have matched := List.find?_some isFound
        have sameKey : binding.key = path.text := eq_of_beq matched
        rw [orderly.form] at member
        rw [← sameKey]
        have isKey : IsKey fields binding.key :=
          ⟨binding.path, isKeyPath_of_mem_bindings named member, rfl⟩
        exact noted.requestOptions isKey _ _ _

theorem emptied (orderly : engine.Orderly fields) : engine.emptied.Orderly fields where
  form := orderly.form
  errors := .nil _
  slots := orderly.slots.of_keys (keys_resetSlots _ _)
  flows := .nil _
  passwords := Keyed.distinct_nil
  pending _ member := nomatch member

theorem reset (orderly : engine.Orderly fields) (named : WellNamed fields) :
    engine.reset.Orderly fields := by
  rw [reset_eq]
  exact orderly.emptied.refreshed named none

theorem submit (orderly : engine.Orderly fields) (named : WellNamed fields)
    (handler : Json → Except String Unit) : (engine.submit handler).engine.Orderly fields := by
  have validated := orderly.validateAll named
  unfold Engine.submit
  dsimp only
  split
  · exact validated.congr rfl rfl rfl rfl rfl rfl
  · unfold finishSubmitting conclude
    cases handler engine.validateAll.startSubmitting.values with
    | error cause => exact validated.congr rfl rfl rfl rfl rfl rfl
    | ok _ =>
        let answered : Engine :=
          { engine.validateAll.startSubmitting with
            store := { engine.validateAll.startSubmitting.store with submitting := false } }
        have started : answered.Orderly fields := validated.congr rfl rfl rfl rfl rfl rfl
        exact ((started.reset named).withStatus _).emit _

theorem perform (orderly : engine.Orderly fields) (named : WellNamed fields)
    (operation : HostOperation) : (engine.perform operation).1.Orderly fields := by
  cases operation with
  | setValue text value => exact orderly.setValue named text value
  | blur text => exact orderly.blur text
  | validateField text => exact orderly.validateField text
  | validateAll => exact orderly.validateAll named
  | validateStep => exact orderly.validateStep named
  | addItem text => exact orderly.addItem named text
  | removeItem text index => exact orderly.removeItem named text index
  | selectFlowStep text id value => exact orderly.selectFlowStep named text id value
  | refreshOptions text => exact orderly.refreshOptions named text
  | nextStep => exact orderly.nextStep named
  | previousStep => exact orderly.move _ _
  | toggleDropdown key => exact orderly.congr rfl rfl rfl rfl rfl rfl
  | closeDropdowns => exact orderly.congr rfl rfl rfl rfl rfl rfl
  | togglePassword key =>
      exact ⟨orderly.form, orderly.errors, orderly.slots, orderly.flows,
        orderly.passwords.put key _, orderly.pending⟩
  | reset => exact orderly.reset named
  | submit handler => exact orderly.submit named handler

theorem completeFetch (orderly : engine.Orderly fields) (ticket : Ticket)
    (result : FetchResult) : (engine.completeFetch ticket result).1.Orderly fields := by
  unfold Engine.completeFetch
  cases taken : engine.store.complete ticket result with
  | none => exact orderly
  | some store =>
      rcases Store.complete_put taken with
        ⟨key, old, slot, isThere, rfl⟩ | ⟨key, old, state, isThere, rfl⟩
      · exact ⟨orderly.form, orderly.errors, orderly.slots.replace isThere slot, orderly.flows,
          orderly.passwords, orderly.pending⟩
      · exact ⟨orderly.form, orderly.errors, orderly.slots, orderly.flows.replace isThere state,
          orderly.passwords, orderly.pending⟩

theorem mount (mounting : Mounting) (named : WellNamed mounting.form.fields) :
    (Engine.mount mounting).Orderly mounting.form.fields := by
  have blank : (unfolded mounting).Orderly mounting.form.fields :=
    ⟨rfl, .nil _, .nil _, .nil _, Keyed.distinct_nil, fun _ member => nomatch member⟩
  exact blank.refreshDerived named none

end Engine.Orderly

theorem Session.Reachable.orderly {mounting : Engine.Mounting} {session : Session}
    (reachable : Reachable mounting session) (named : WellNamed mounting.form.fields) :
    session.engine.Orderly mounting.form.fields := by
  induction reachable with
  | mounted => exact .mount mounting named
  | @stepped session step _ _ ih =>
      cases step with
      | operate operation => exact ih.perform named operation
      | take =>
          exact ⟨ih.form, ih.errors, ih.slots, ih.flows, ih.passwords,
            fun _ member => nomatch member⟩
      | complete ticket result => exact ih.completeFetch ticket result

end DeclarativeForm
