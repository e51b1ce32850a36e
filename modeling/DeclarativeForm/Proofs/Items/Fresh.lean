import DeclarativeForm.Proofs.Flow.Choice
import DeclarativeForm.Proofs.Items.Presence
import DeclarativeForm.Proofs.Validation.Field

/-!
Items that are added. An addition records no errors and starts the flows that have no state yet. So
a fresh item has under its keys what was kept there before it came: errors of checks that were made
ahead of it, or errors and states of flows of an item that was written away. Where the tables are
attached nothing was kept there, and a fresh item starts clean.
-/

set_option autoImplicit false

namespace DeclarativeForm

open FieldPath

/-! ### Errors that stay -/

def IsFed (fields : List Node) (values : Json) (key : String) : Prop :=
  ∃ (field : Leaf) (path : FieldPath) (place : Context),
    ⟨.leaf field, path, place⟩ ∈ walk .everything values .root fields ∧
      field.optionsSource.isSome = true ∧ path.text = key

theorem isFed_of_mem {fields : List Node} {values : Json} {binding : OptionBinding}
    (member : binding ∈ optionBindings fields values) : IsFed fields values binding.key := by
  obtain ⟨place, isAt⟩ := isAt_of_mem member
  exact ⟨binding.field, binding.path, place, isAt.visited, isAt.source ▸ rfl, rfl⟩

namespace Engine

variable {engine : Engine} {entry : String × String}

private theorem mem_errors_applyClearings (clearings : List Clearing) {state : Store × Bool}
    (spared : ∀ clearing ∈ clearings, ∀ path, parse clearing.1 = .ok path → entry.1 ≠ path.text)
    (member : entry ∈ state.1.errors) :
    entry ∈ (clearings.foldl applyClearing state).1.errors := by
  induction clearings generalizing state with
  | nil => exact member
  | cons clearing rest ih =>
      refine ih (fun other later => spared other (List.mem_cons_of_mem _ later)) ?_
      have different := spared clearing List.mem_cons_self
      unfold applyClearing
      cases read : parse clearing.1 with
      | error fault => exact member
      | ok path =>
          dsimp only
          split
          · exact member
          · cases clearing.2 with
            | none => exact member
            | some fallback => exact Keyed.mem_erase_of_ne (different path read) member

theorem mem_errors_syncPass (touched : Option String) (named : WellNamed engine.form.fields)
    (unfed : ¬IsFed engine.form.fields engine.values entry.1)
    (member : entry ∈ engine.store.errors) :
    entry ∈ (syncPass touched engine engine.bindings).1.store.errors := by
  obtain ⟨cleared, told, asks⟩ := foldl_requestBinding touched engine.bindings
    (fun one isOne two isTwo => eq_of_key_eq named isOne isTwo) engine []
  have requested := foldl_requestBinding_errors touched engine.bindings (engine, [])
  unfold syncPass
  dsimp only
  generalize engine.bindings.foldl (requestBinding touched) (engine, []) = state
    at told requested
  obtain ⟨after, clearings⟩ := state
  obtain rfl : clearings = cleared.map OptionBinding.clearing := told
  refine mem_errors_applyClearings _ ?_ (requested ▸ member)
  intro clearing isClearing path read same
  obtain ⟨binding, chosen, rfl⟩ := List.mem_map.mp isClearing
  have isBinding := asks.subset binding chosen
  rw [eq_path_of_parse_key named isBinding read] at same
  exact unfed (same ▸ isFed_of_mem isBinding)

theorem mem_errors_syncPasses (touched : Option String) (fuel passes : Nat)
    (named : WellNamed engine.form.fields)
    (unfed : ¬IsFed engine.form.fields engine.values entry.1)
    (member : entry ∈ engine.store.errors) :
    entry ∈ (syncPasses touched fuel passes engine).store.errors := by
  let kept (other : Engine) : Prop :=
    WellNamed other.form.fields ∧ ¬IsFed other.form.fields other.values entry.1 ∧
      entry ∈ other.store.errors
  refine (syncPasses_keep kept (fun _ _ => id) (fun other ⟨named, unfed, member⟩ => ?_) fuel passes
    ⟨named, unfed, member⟩).2.2
  obtain ⟨cleared, passed⟩ := syncPass_passed touched other named
  have form := passed.form
  have shape := passed.within.shape
  have stays := mem_errors_syncPass touched named unfed member
  rw [bindings] at form shape stays
  refine ⟨?_, ?_, stays⟩
  · rw [form]
    exact named
  · rw [form, IsFed, shape]
    exact unfed

/-- The errors of fields whose options are not fetched stay when the fields are brought up to
date. -/
theorem mem_errors_refreshDerived (touched : Option String) (named : WellNamed engine.form.fields)
    (unfed : ¬IsFed engine.form.fields engine.values entry.1)
    (member : entry ∈ engine.store.errors) :
    entry ∈ (engine.refreshDerived touched).store.errors := by
  have form := (syncFlows_works engine).form
  have values := (syncFlows_keeps engine).1
  refine mem_errors_syncPasses touched _ 0 (form ▸ named) ?_ ?_
  · rw [form, values]
    exact unfed
  · rw [engine.syncFlows_errors]
    exact member

end Engine

/-! ### Flows nothing was chosen in -/

def FlowPlace.IsStart (place : FlowPlace) (state : FlowState) : Prop :=
  ∃ scope next, state = (place.flow.start place.path.text scope next).state

theorem FlowPlace.IsStart.value_eq {place : FlowPlace} {state : FlowState}
    (isStart : place.IsStart state) (id : String) : state.value id = "" := by
  obtain ⟨scope, next, rfl⟩ := isStart
  exact (place.flow.start_spec _ _ _).2 id

theorem FlowPlace.IsStart.steps {place : FlowPlace} {state : FlowState}
    (isStart : place.IsStart state) : state.HasStepsOf place.flow := by
  obtain ⟨scope, next, rfl⟩ := isStart
  exact (place.flow.start_spec _ _ _).1

namespace Engine

variable {engine : Engine}

theorem flow?_syncFlow (engine : Engine) (place : FlowPlace) (key : String) :
    (engine.syncFlow place).store.flow? key = engine.store.flow? key ∨
      engine.store.flow? key = none ∧ place.path.text = key ∧
        ∃ state, (engine.syncFlow place).store.flow? key = some state ∧ place.IsStart state := by
  unfold syncFlow
  dsimp only
  split
  · exact Or.inl rfl
  · rename_i absent
    by_cases same : place.path.text = key
    · subst key
      exact Or.inr ⟨absent, rfl, _, Keyed.find?_put_self _ _ _, _, _, rfl⟩
    · exact Or.inl (Keyed.find?_put_other (Ne.symm same) _ _)

theorem flow?_foldl_syncFlow (places : List FlowPlace) (engine : Engine) (key : String) :
    (places.foldl syncFlow engine).store.flow? key = engine.store.flow? key ∨
      engine.store.flow? key = none ∧ ∃ place ∈ places, place.path.text = key ∧
        ∃ state, (places.foldl syncFlow engine).store.flow? key = some state ∧
          place.IsStart state := by
  induction places generalizing engine with
  | nil => exact Or.inl rfl
  | cons first rest ih =>
      rw [List.foldl_cons]
      rcases ih (engine.syncFlow first) with kept | ⟨absent, place, member, isAt, started⟩
      · rw [kept]
        refine (engine.flow?_syncFlow first key).imp_right ?_
        rintro ⟨absent, isAt, started⟩
        exact ⟨absent, first, List.mem_cons_self, isAt, started⟩
      · refine Or.inr ⟨?_, place, List.mem_cons_of_mem _ member, isAt, started⟩
        rcases engine.flow?_syncFlow first key with kept | ⟨wasAbsent, _⟩
        · exact kept ▸ absent
        · exact wasAbsent

/-- A flow keeps its state when the fields are brought up to date, or it had none and starts. -/
theorem flow?_refreshed (touched : Option String) (named : WellNamed engine.form.fields)
    {path : FieldPath} {flow : Flow} {context : Context}
    (addresses : Addresses engine.form.fields .root path.segments ⟨.flow flow, context⟩) :
    (engine.refreshDerived touched).store.flow? path.text = engine.store.flow? path.text ∨
      engine.store.flow? path.text = none ∧
        ∃ state, (engine.refreshDerived touched).store.flow? path.text = some state ∧
          FlowPlace.IsStart ⟨path, flow, context⟩ state := by
  have flows : (engine.refreshDerived touched).store.flows = engine.syncFlows.store.flows :=
    syncPasses_flows touched _ 0 engine.syncFlows
  rw [Store.flow?, flows]
  refine (flow?_foldl_syncFlow (flowPlaces engine.form.fields engine.values) engine
    path.text).imp_right ?_
  rintro ⟨absent, other, isOther, sameKey, state, isThere, isStart⟩
  refine ⟨absent, state, isThere, ?_⟩
  have isPlace := (addresses_of_mem_flowPlaces named isOther).1
  have owned : path.text ∈ keysOf other.path.text (.flow other.flow) :=
    sameKey ▸ List.mem_cons_self
  have shared : path.text ∈ keysOf path.text (.flow flow) := List.mem_cons_self
  obtain ⟨samePath, sameNode⟩ := isPlace.eq_of_shared_key addresses named rfl rfl owned shared
  obtain ⟨_, _, _⟩ := other
  cases samePath
  cases sameNode
  exact isStart

theorem flow?_refreshDerived (touched : Option String) (named : WellNamed engine.form.fields)
    {place : FlowPlace}
    (member : place ∈ flowPlaces engine.form.fields (engine.refreshDerived touched).values) :
    ∃ state, (engine.refreshDerived touched).store.flow? place.path.text = some state ∧
      (engine.store.flow? place.path.text = some state ∨
        engine.store.flow? place.path.text = none ∧ place.IsStart state) := by
  have form : (engine.refreshDerived touched).form = engine.form :=
    (engine.refreshDerived_works touched).form
  obtain ⟨state, isThere⟩ := Option.isSome_iff_exists.mp
    (engine.refreshDerived_started touched named place (form ▸ member))
  refine ⟨state, isThere, ?_⟩
  rcases flow?_refreshed touched named (addresses_of_mem_flowPlaces named member).1 with
    kept | ⟨absent, started, found, isStart⟩
  · exact Or.inl (kept.symm.trans isThere)
  · cases isThere.symm.trans found
    exact Or.inr ⟨absent, isStart⟩

theorem addItem_eq_ok {text : String} {path : FieldPath} {index : Nat}
    (parsed : parse text = .ok path) (added : (engine.addItem text).2 = .ok index) :
    index = itemCount path engine.values ∧ ∃ head template place,
      Addresses engine.form.fields .root path.segments ⟨.repeatable head template, place⟩ ∧
      (engine.addItem text).1 =
        ((engine.withNewItem path template).refreshDerived (some path.text)).emitChange := by
  have reached := engine.addItem_addition text
  generalize engine.addItem text = result at reached added ⊢
  cases reached with
  | refused rejection => cases added
  | most found message rejection => cases added
  | @added spot head template place found =>
      obtain ⟨read, addresses⟩ := locate_eq_ok found
      obtain rfl : path = spot := Except.ok.inj (parsed.symm.trans read)
      exact ⟨(Except.ok.inj added).symm, head, template, place, addresses, rfl⟩

/-- What an addition to a repeatable does to what is kept for the items. No error is new, and only
those of the repeatable and of fields whose options are fetched may go. Flows keep their states, and
one that has none starts. -/
structure AddsItem (fields : List Node) (path : FieldPath) (before after : Engine) : Prop where
  errors : ∀ entry ∈ after.store.errors, entry ∈ before.store.errors
  stay : ∀ entry ∈ before.store.errors, entry.1 ≠ path.text →
    ¬IsFed fields after.values entry.1 → entry ∈ after.store.errors
  flows : ∀ place ∈ flowPlaces fields after.values,
    ∃ state, after.store.flow? place.path.text = some state ∧
      (before.store.flow? place.path.text = some state ∨
        before.store.flow? place.path.text = none ∧ place.IsStart state)

/-- Nothing is kept for an item but the states that its flows start with, without any values. -/
structure IsClean (fields : List Node) (engine : Engine) (item : FieldPath) : Prop where
  errors : ∀ key ∈ Keyed.keys engine.store.errors, isUnder key item.text = false
  flows : ∀ place ∈ flowPlaces fields engine.values, isUnder place.path.text item.text = true →
    ∃ state, engine.store.flow? place.path.text = some state ∧ place.IsStart state ∧
      ∀ id, state.value id = ""

theorem AddsItem.emitChange {fields : List Node} {path : FieldPath} {after : Engine}
    (adds : engine.AddsItem fields path after) : engine.AddsItem fields path after.emitChange :=
  ⟨adds.errors, adds.stay, adds.flows⟩

/-- Bringing fields up to date records nothing and only starts flows. -/
theorem addsItem_of_refresh {written : Engine} {path : FieldPath}
    (named : WellNamed engine.form.fields) (form : written.form = engine.form)
    (errors : written.store.errors = Keyed.erase path.text engine.store.errors)
    (flows : written.store.flows = engine.store.flows) (touched : Option String) :
    engine.AddsItem engine.form.fields path (written.refreshDerived touched) where
  errors entry member := by
    have kept := (written.refreshDerived_errors touched).subset member
    rw [errors] at kept
    exact (Keyed.erase_sublist _ _).subset kept
  stay entry member other unfed := by
    rw [← form] at named unfed
    rw [IsFed, (written.refreshDerived_within touched named).shape] at unfed
    refine mem_errors_refreshDerived touched named unfed ?_
    rw [errors]
    exact Keyed.mem_erase_of_ne other member
  flows place member := by
    rw [← form] at named member
    have started := flow?_refreshDerived touched named member
    rw [Store.flow?, Store.flow?, flows] at started
    exact started

theorem addItem_addsItem {text : String} {path : FieldPath} {index : Nat}
    (named : WellNamed engine.form.fields) (parsed : parse text = .ok path)
    (added : (engine.addItem text).2 = .ok index) :
    engine.AddsItem engine.form.fields path (engine.addItem text).1 := by
  obtain ⟨_, head, template, place, _, same⟩ := addItem_eq_ok parsed added
  have refreshed := @addsItem_of_refresh engine (engine.withNewItem path template) path named rfl
    rfl rfl (some path.text)
  rw [same]
  exact refreshed.emitChange

/-- Where the tables are attached there is nothing under the item to come. -/
theorem Attached.isClean {after : Engine} {path : FieldPath} {head : Repeatable}
    {template : List Node} {place : Context} {fields : List Node}
    (attached : engine.Attached fields) (named : WellNamed fields)
    (isList : Addresses fields .root path.segments ⟨.repeatable head template, place⟩)
    (adds : engine.AddsItem fields path after) :
    after.IsClean fields (path.item (itemCount path engine.values)) := by
  have nothing (key : String) (present : IsPresent fields engine.values key) :
      isUnder key (path.item (itemCount path engine.values)).text = false := by
    refine eq_false_of_ne_true fun under => ?_
    exact Nat.lt_irrefl _ (present.lt_itemCount_of_isUnder named isList under)
  constructor
  · intro key member
    obtain ⟨entry, isEntry, rfl⟩ := List.mem_map.mp member
    have wasEntry := List.mem_map_of_mem (f := Prod.fst) (adds.errors entry isEntry)
    exact nothing _ (attached.errors.keys _ wasEntry)
  · intro place member under
    obtain ⟨state, isThere, was | ⟨_, isStart⟩⟩ := adds.flows place member
    · have absurdly := nothing _ (attached.flows.keys _ (Keyed.mem_keys_of_find? was))
      rw [absurdly] at under
      cases under
    · exact ⟨state, isThere, isStart, isStart.value_eq⟩

end Engine

namespace Session

/-- An addition makes up no errors. Those there were stay, except that of the repeatable and those
of fields whose options are fetched, and so do the states of flows. So what was kept under the keys
of the fresh item before it came is kept for it. In a session of a host that heeds what is there
nothing was, and the item starts clean. -/
theorem Reachable.addItem_clean {mounting : Engine.Mounting} {session : Session}
    (reachable : Reachable mounting session) (named : WellNamed mounting.form.fields)
    {text : String} {path : FieldPath} {index : Nat} (parsed : parse text = .ok path)
    (added : (session.engine.addItem text).2 = .ok index) :
    session.engine.AddsItem mounting.form.fields path (session.engine.addItem text).1 ∧
      (Careful mounting session →
        (session.engine.addItem text).1.IsClean mounting.form.fields (path.item index)) := by
  have form : session.engine.form.fields = mounting.form.fields := by
    rw [reachable.form]
  have adds := Engine.addItem_addsItem (form ▸ named) parsed added
  obtain ⟨rfl, head, template, place, isList, _⟩ := Engine.addItem_eq_ok parsed added
  rw [form] at adds isList
  exact ⟨adds, fun careful => (careful.attached named).isClean named isList adds⟩

/-- A country is chosen for the second order, the order is checked and taken out. -/
def checkedOrder : List HostStep :=
  [.operate (.selectFlowStep "sent[1].place" "country" "it"),
    .operate (.validateField "sent[1].place"), .operate (.removeItem "sent" 1)]

/-- The next order is the second one again and starts clean. If the place of an order is checked
that is not there, the order has an error as soon as it is. -/
theorem checkedOrder_clean :
    (((mount sentOrders).run checkedOrder).engine.addItem "sent").1.IsClean
        sentOrders.form.fields ((key "sent").item 1) ∧
      (((mount sentOrders).engine.validateField "sent[2].place").1.addItem "sent").1.error?
        "sent[2].place.city" = some "City is required" := by
  let place := ((key "sent").item 1).child "place"
  have named : WellNamed sentOrders.form.fields := by decide +kernel
  have ofOrders : parse "sent" = .ok (key "sent") := by decide +kernel
  have ofPlace : parse "sent[1].place" = .ok place := by decide +kernel
  have honest : (mount sentOrders).Honest checkedOrder := by decide +kernel
  have chosen : missingItem? place ((mount sentOrders).run []).engine.values = none := by
    decide +kernel
  have checked : missingItem? place
      ((mount sentOrders).run (checkedOrder.take 1)).engine.values = none := by decide +kernel
  have removed : itemCount (key "sent")
      ((mount sentOrders).run (checkedOrder.take 2)).engine.values ≤ indexLimit := by decide +kernel
  have added : (((mount sentOrders).run checkedOrder).engine.addItem "sent").2 = .ok 1 := by
    decide +kernel
  have ahead : (((mount sentOrders).engine.validateField "sent[2].place").1.addItem "sent").1.error?
      "sent[2].place.city" = some "City is required" := by decide +kernel
  have reachable : Reachable sentOrders (mount sentOrders) := .mounted
  have careful : Careful sentOrders (mount sentOrders) := .mounted
  generalize mount sentOrders = session at *
  have careful : Careful sentOrders (session.run checkedOrder) := by
    refine .stepped (.operate _) (.stepped (.operate _) (.stepped (.operate _) careful ?_) ?_) ?_
    · intro path read
      cases ofPlace.symm.trans read
      exact chosen
    · intro path read
      cases ofPlace.symm.trans read
      exact checked
    · intro path read
      cases ofOrders.symm.trans read
      exact removed
  have clean := Reachable.addItem_clean (reachable.run honest) named ofOrders added
  exact ⟨clean.2 careful, ahead⟩

end Session

end DeclarativeForm
