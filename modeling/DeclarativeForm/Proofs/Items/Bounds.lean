import DeclarativeForm.Proofs.Items.Presence
import DeclarativeForm.Proofs.Sync.Still
import DeclarativeForm.Proofs.Validation.Field

/-!
The bounds of a repeatable at the top level. An addition and a removal look at the number of items
before they change it by one. All other writes go to places that are apart from the list, or to
places inside one of its items, and leave their number alone; only a reset and a submission that
ends in one go back to the number of items there were at first. A host that writes no value to the
list as a whole, and nothing below an item that is not there, finds it within its bounds in every
session.
-/

set_option autoImplicit false

namespace DeclarativeForm

open FieldPath

def Repeatable.Admits (head : Repeatable) (count : Nat) : Prop :=
  (∀ least, head.minItems = some least → least ≤ count) ∧
    ∀ most, head.maxItemCount = some most → count ≤ most

/-- A list is not written to as a whole, and nothing is added or chosen below an item that is not
there. -/
def Engine.Spares (engine : Engine) (list : FieldPath) : HostOperation → Prop
  | .setValue text _ => parse text ≠ .ok list
  | .addItem text => engine.Reaches text
  | .selectFlowStep text _ _ => engine.Reaches text
  | _ => True

/-- The answers that say that the number of items of a list is another one. -/
def HostOperation.Recounts (list : FieldPath) : HostOperation → HostAnswer → Prop
  | .addItem text, .added (.ok _) => parse text = .ok list
  | .removeItem text _, .written (.ok _) => parse text = .ok list
  | .reset, _ => True
  | .submit _, .submitted (.submitted _) _ => True
  | _, _ => False

inductive Tally (list : FieldPath) (start before : Nat) :
    HostOperation → HostAnswer → Nat → Prop
  | added {text : String} (index : Nat) (isList : parse text = .ok list) :
      Tally list start before (.addItem text) (.added (.ok index)) (before + 1)
  | removed {text : String} (index : Nat) {after : Nat} (isList : parse text = .ok list)
      (fewer : before = after + 1) :
      Tally list start before (.removeItem text index) (.written (.ok ())) after
  | reset : Tally list start before .reset .done start
  | submitted (handler : Json → Except String Unit) (message : String) (sent : List Json) :
      Tally list start before (.submit handler) (.submitted (.submitted message) sent) start
  | kept {operation : HostOperation} {answer : HostAnswer}
      (still : ¬operation.Recounts list answer) : Tally list start before operation answer before

/-! ### Edits -/

/-- A write to a list leaves as many items as are written. -/
theorem FieldPath.itemCount_set_array (path : FieldPath) (values : Json) (items : List Json) :
    itemCount path (path.set values (.array items)) = items.length := by
  have written : path.get? (path.set values (.array items)) = some (.array items) :=
    getAt_setAt path.segments values (.array items)
  rw [itemCount_eq, written]
  rfl

section TopLevel

variable {fields : List Node} {name : String} {head : Repeatable} {template : List Node}
  {place : Context} {path : FieldPath} {located : Located} {before after : Json}

/-- An edit at any other place keeps the number of items of a list at the top level. -/
theorem FieldPath.Edited.itemCount_top (edited : Edited path.segments before after)
    (isList : Addresses fields .root (FieldPath.key name).segments ⟨.repeatable head template, place⟩)
    (addresses : Addresses fields .root path.segments located) (other : path ≠ FieldPath.key name) :
    itemCount (FieldPath.key name) after = itemCount (FieldPath.key name) before := by
  rcases addresses.compare_list isList with apart | ⟨position, back, below⟩ | ⟨_, same | around⟩
  · have untouched := edited.getAt_of_apart apart
    rw [FieldPath.itemCount_eq, FieldPath.itemCount_eq, get?_eq, get?_eq, untouched]
  · rw [below] at edited
    exact edited.itemCount_eq
  · exact absurd (congrArg FieldPath.mk same) other
  · obtain ⟨position, back, whole⟩ := around
    have lengths := congrArg List.length whole
    have some := List.length_pos_iff.mpr addresses.ne_nil
    simp only [FieldPath.key, List.length_append, List.length_cons, List.length_nil] at lengths
    omega

end TopLevel

/-! ### Operations -/

namespace Engine

variable {engine : Engine} {name : String} {head : Repeatable} {template : List Node}
  {place : Context}

theorem addItem_room {text : String} {path : FieldPath} {index : Nat}
    (found : engine.locate text = .ok (path, ⟨.repeatable head template, place⟩))
    (added : (engine.addItem text).2 = .ok index) {most : Nat}
    (bound : head.maxItemCount = some most) : itemCount path engine.values < most := by
  by_contra full
  have reached : most ≤ itemCount path engine.values := Nat.le_of_not_lt full
  simp only [addItem, found, bound, Option.filter_some, reached, decide_true, if_true] at added
  cases added

theorem removeItem_room {text : String} {path : FieldPath} {index : Nat}
    (found : engine.locate text = .ok (path, ⟨.repeatable head template, place⟩))
    (done : (engine.removeItem text index).2 = .ok ()) {least : Nat}
    (bound : head.minItems = some least) : least < itemCount path engine.values := by
  by_contra empty
  have reached : itemCount path engine.values ≤ least := Nat.le_of_not_lt empty
  simp only [removeItem, found, bound, Option.filter_some, reached, decide_true, if_true] at done
  split at done <;> cases done

section TopLevel

variable (named : WellNamed engine.form.fields)
  (isList : Addresses engine.form.fields .root (key name).segments
    ⟨.repeatable head template, place⟩)

include named isList

theorem itemCount_refreshed (touched : Option String) :
    itemCount (key name) (engine.refreshDerived touched).emitChange.values =
      itemCount (key name) engine.values := by
  rw [values_emitChange]
  exact (engine.refreshDerived_within touched named).items _ head template place isList

/-- Bringing fields up to date after a write keeps what the write has left. -/
theorem itemCount_written {written : Engine} (form : written.form = engine.form)
    (touched : Option String) :
    itemCount (key name) (written.refreshDerived touched).emitChange.values =
      itemCount (key name) written.values := by
  rw [← form] at named isList
  exact itemCount_refreshed named isList touched

theorem setValue_itemCount {text : String} (value : Json) (other : parse text ≠ .ok (key name)) :
    itemCount (key name) (engine.setValue text value).1.values =
      itemCount (key name) engine.values := by
  have reached := engine.setValue_write text value
  generalize engine.setValue text value = result at reached ⊢
  cases reached with
  | refused rejection => rfl
  | @written path located found complete =>
      obtain ⟨parsed, addresses⟩ := locate_eq_ok found
      have elsewhere : path ≠ key name := fun same => other (same ▸ parsed)
      have form : (engine.withValue path located value).form = engine.form := by
        unfold withValue
        dsimp only
        split <;> rfl
      have values : (engine.withValue path located value).values = path.set engine.values value := by
        unfold withValue
        dsimp only
        split
        · exact recordErrors_values _ _ _
        · rfl
      rw [itemCount_written named isList form, values]
      exact (setAt_edited addresses.endsInKey (indexed_of_missingItem? complete) value).itemCount_top
        isList addresses elsewhere

theorem addItem_tally {text : String} (start : Nat) (reaches : engine.Reaches text) :
    Tally (key name) start (itemCount (key name) engine.values) (.addItem text)
      (.added (engine.addItem text).2)
      (itemCount (key name) (engine.addItem text).1.values) := by
  have reached := engine.addItem_addition text
  generalize engine.addItem text = result at reached ⊢
  cases reached with
  | refused rejection => exact .kept id
  | most found message rejection => exact .kept id
  | @added path outer nodes around found =>
      obtain ⟨parsed, addresses⟩ := locate_eq_ok found
      have form : (engine.withNewItem path nodes).form = engine.form := rfl
      rw [itemCount_written named isList form, withNewItem_values]
      by_cases same : path = key name
      · subst same
        rw [itemCount_set_array, List.length_append, List.length_singleton, itemsAt,
          ← itemCount_eq]
        exact .added _ parsed
      · have edited := setAt_edited addresses.endsInKey (reaches.indexed found)
          (.array (path.itemsAt engine.values ++ [initialValues nodes]))
        have kept := edited.itemCount_top isList addresses same
        have still : ¬HostOperation.Recounts (key name) (.addItem text)
            (.added (.ok (itemCount path engine.values))) :=
          fun isPath => same (Except.ok.inj (parsed.symm.trans isPath))
        rw [FieldPath.set, kept]
        exact .kept still

theorem removeItem_tally (text : String) (index start : Nat) :
    Tally (key name) start (itemCount (key name) engine.values) (.removeItem text index)
      (.written (engine.removeItem text index).2)
      (itemCount (key name) (engine.removeItem text index).1.values) := by
  have reached := engine.removeItem_removal text index
  generalize engine.removeItem text index = result at reached ⊢
  cases reached with
  | refused rejection => exact .kept id
  | least found message rejection => exact .kept id
  | @removed path outer nodes around found inRange =>
      obtain ⟨parsed, addresses⟩ := locate_eq_ok found
      obtain ⟨items, isThere, inside, count⟩ := exists_items inRange
      have form : (engine.withoutItem path index).form = engine.form := rfl
      rw [itemCount_written named isList form, withoutItem_values isThere inside]
      by_cases same : path = key name
      · subst same
        refine .removed index parsed ?_
        rw [itemCount_set_array, count, List.length_eraseIdx_of_lt inside]
        omega
      · have edited := setAt_edited addresses.endsInKey (indexed_of_lt_itemCount inRange)
          (.array (items.eraseIdx index))
        have kept := edited.itemCount_top isList addresses same
        have still : ¬HostOperation.Recounts (key name) (.removeItem text index)
            (.written (.ok ())) :=
          fun isPath => same (Except.ok.inj (parsed.symm.trans isPath))
        rw [FieldPath.set, kept]
        exact .kept still

theorem selectFlowStep_itemCount {text : String} (id value : String)
    (reaches : engine.Reaches text) :
    itemCount (key name) (engine.selectFlowStep text id value).1.values =
      itemCount (key name) engine.values := by
  have reached := engine.selectFlowStep_choice text id value
  generalize engine.selectFlowStep text id value = result at reached ⊢
  cases reached with
  | refused rejection => rfl
  | ignored found starts present selection unapplied =>
      subst starts
      exact congrArg (itemCount (key name)) (engine.syncFlow_keeps _).1
  | @applied path flow around started state index progress change found starts present
      isStep enabled chosen tickets output =>
      subst starts
      obtain ⟨_, addresses⟩ := locate_eq_ok found
      have elsewhere : path ≠ key name := by
        rintro rfl
        cases addresses.locateFrom.symm.trans isList.locateFrom
      have single {after : Json} (edited : Edited path.segments engine.values after) :
          itemCount (key name) after = itemCount (key name) engine.values :=
        edited.itemCount_top isList addresses elsewhere
      let started : Engine := engine.syncFlow ⟨path, flow, around⟩
      let chosen : Engine := started.withChoice path flow id value progress change
      have form : chosen.form = engine.form := (engine.syncFlow_works _).form
      have values : (started.store.putFlow path.text progress.state).values = engine.values :=
        (engine.syncFlow_keeps ⟨path, flow, around⟩).1
      refine (itemCount_written named isList form _).trans ?_
      change itemCount (key name) (applyFlowChange _ path flow id value change).values = _
      rw [applyFlowChange_values, values]
      cases change.output with
      | some output => exact single (setAt_edited addresses.endsInKey (reaches.indexed found) _)
      | none =>
          dsimp only
          by_cases absent : path.get? engine.values = none
          · rw [without_eq_self absent]
          · exact single (without_edited addresses.endsInKey absent)

theorem reset_itemCount :
    itemCount (key name) engine.reset.values = itemCount (key name) engine.store.initial := by
  have form : engine.emptied.form = engine.form := rfl
  rw [reset_eq, itemCount_written named isList form]
  rfl

theorem submit_tally (handler : Json → Except String Unit) :
    Tally (key name) (itemCount (key name) engine.store.initial)
      (itemCount (key name) engine.values) (.submit handler)
      (.submitted (engine.submit handler).outcome (engine.submit handler).sent)
      (itemCount (key name) (engine.submit handler).engine.values) := by
  have concluded (fresh : Engine) (status : Status) (event : Event) :
      ({ fresh with status }.emit event).values = fresh.values := rfl
  unfold submit
  dsimp only
  split
  · exact .kept id
  · unfold finishSubmitting conclude
    cases handler engine.validateAll.startSubmitting.values with
    | error cause => exact .kept id
    | ok _ =>
        let answered : Engine :=
          { engine.validateAll.startSubmitting with
            store := { engine.validateAll.startSubmitting.store with submitting := false } }
        have count : itemCount (key name) answered.reset.values =
            itemCount (key name) engine.store.initial :=
          @reset_itemCount answered name head template place named isList
        dsimp only
        rw [concluded, count]
        exact .submitted handler _ _

/-- An operation that spares a list adds one item to it, takes one from it, goes back to those there
were at first, or leaves their number alone, as its answer says. -/
theorem perform_tally {operation : HostOperation} (spares : engine.Spares (key name) operation) :
    Tally (key name) (itemCount (key name) engine.store.initial)
      (itemCount (key name) engine.values) operation (engine.perform operation).2
      (itemCount (key name) (engine.perform operation).1.values) := by
  have kept {operation : HostOperation} {answer : HostAnswer} {after : Engine}
      (still : ¬operation.Recounts (key name) answer)
      (same : itemCount (key name) after.values = itemCount (key name) engine.values) :
      Tally (key name) (itemCount (key name) engine.store.initial)
        (itemCount (key name) engine.values) operation answer
        (itemCount (key name) after.values) := by
    rw [same]
    exact .kept still
  cases operation with
  | setValue text value => exact kept id (setValue_itemCount named isList value spares)
  | blur text => exact kept id (congrArg _ (engine.blur_still text).values)
  | validateField text => exact kept id (congrArg _ (engine.validateField_still text).values)
  | validateAll => exact kept id rfl
  | validateStep => exact kept id rfl
  | addItem text => exact addItem_tally named isList _ spares
  | removeItem text index => exact removeItem_tally named isList text index _
  | selectFlowStep text step value =>
      exact kept id (selectFlowStep_itemCount named isList step value spares)
  | refreshOptions text => exact kept id (congrArg _ (engine.refreshOptions_still text).values)
  | nextStep => exact kept id (congrArg _ engine.nextStep_still.values)
  | previousStep => exact kept id (congrArg _ (engine.move_still _ _).values)
  | toggleDropdown key => exact kept id rfl
  | closeDropdowns => exact kept id rfl
  | togglePassword key => exact kept id rfl
  | reset =>
      change Tally _ _ _ .reset .done (itemCount _ engine.reset.values)
      rw [reset_itemCount named isList]
      exact .reset
  | submit handler => exact submit_tally named isList handler

/-- An operation that spares a list keeps it within its bounds, if it was within them at first. -/
theorem perform_admits {operation : HostOperation} (spares : engine.Spares (key name) operation)
    (start : head.Admits (itemCount (key name) engine.store.initial))
    (admits : head.Admits (itemCount (key name) engine.values)) :
    head.Admits (itemCount (key name) (engine.perform operation).1.values) := by
  have tally := perform_tally named isList spares
  generalize answered : (engine.perform operation).2 = answer at tally
  generalize itemCount (key name) (engine.perform operation).1.values = after at tally ⊢
  generalize count : itemCount (key name) engine.values = before at tally admits
  cases tally with
  | @added text index parsed =>
      have found := locate_of_addresses parsed isList
      have room {most : Nat} := @addItem_room engine head template place text _ index found
        (HostAnswer.added.inj answered) most
      rw [count] at room
      exact ⟨fun least bound => Nat.le_succ_of_le (admits.1 least bound), fun _ bound => room bound⟩
  | @removed text index after parsed fewer =>
      have found := locate_of_addresses parsed isList
      have room {least : Nat} := @removeItem_room engine head template place text _ index found
        (HostAnswer.written.inj answered) least
      rw [count, fewer] at room
      rw [fewer] at admits
      exact ⟨fun _ bound => Nat.le_of_lt_succ (room bound),
        fun most bound => Nat.le_of_succ_le (admits.2 most bound)⟩
  | reset => exact start
  | submitted handler message sent => exact start
  | kept still => exact admits

end TopLevel

end Engine

/-! ### Sessions -/

namespace Session

def Spares (session : Session) (list : FieldPath) : HostStep → Prop
  | .operate operation => session.engine.Spares list operation
  | .take => True
  | .complete _ _ => True

inductive Sparing (mounting : Engine.Mounting) (list : FieldPath) : Session → Prop
  | mounted : Sparing mounting list (mount mounting)
  | stepped {session : Session} (step : HostStep) (sparing : Sparing mounting list session)
      (spares : session.Spares list step) : Sparing mounting list (session.step step)

structure Bounded (mounting : Engine.Mounting) (head : Repeatable) (session : Session) : Prop where
  form : session.engine.form = mounting.form
  initial : itemCount (key head.name) session.engine.store.initial =
    itemCount (key head.name) (Engine.mount mounting).values
  admits : head.Admits (itemCount (key head.name) session.engine.values)

variable {mounting : Engine.Mounting} {head : Repeatable} {template : List Node}

theorem Sparing.holds {session : Session} (sparing : Sparing mounting (key head.name) session)
    (named : WellNamed mounting.form.fields)
    (isList : Addresses mounting.form.fields .root (key head.name).segments
      ⟨.repeatable head template, .root⟩)
    (start : head.Admits (itemCount (key head.name) (Engine.mount mounting).values)) :
    Bounded mounting head session := by
  induction sparing with
  | mounted =>
      have works := mount_works mounting
      have count : itemCount (key head.name) (Engine.mount mounting).values =
          itemCount (key head.name) (Engine.unfolded mounting).values :=
        ((Engine.unfolded mounting).refreshDerived_within none named).items _ head template .root
          isList
      refine ⟨works.form, ?_, start⟩
      rw [count]
      exact congrArg _ works.initial
  | @stepped session step _ spares ih =>
      obtain ⟨form, initial, admits⟩ := ih
      cases step with
      | operate operation =>
          have performed := session.engine.perform_performed operation
          refine ⟨performed.form.trans form, (congrArg _ performed.initial).trans initial, ?_⟩
          rw [← form] at named isList
          rw [← initial] at start
          exact Engine.perform_admits named isList spares start admits
      | take => exact ⟨form, initial, admits⟩
      | complete ticket result =>
          have rests := session.engine.completeFetch_rests ticket result
          have values := session.engine.completeFetch_values ticket result
          refine ⟨rests.form.trans form, ?_, values ▸ admits⟩
          exact (congrArg _ (session.engine.completeFetch_initial ticket result)).trans initial

/-- A repeatable at the top level that is within its bounds when the form is mounted stays within
them, as long as it is spared. An operation that spares it changes the number of its items only when
it adds one, removes one or starts the form anew, and fetching does not change it. -/
theorem Sparing.bounds_hold {session : Session} (sparing : Sparing mounting (key head.name) session)
    (named : WellNamed mounting.form.fields)
    (member : .repeatable head template ∈ spread mounting.form.fields)
    (start : head.Admits (itemCount (key head.name) (Engine.mount mounting).values)) :
    head.Admits (itemCount (key head.name) session.engine.values) ∧
      (∀ operation, session.engine.Spares (key head.name) operation →
        Tally (key head.name) (itemCount (key head.name) (Engine.mount mounting).values)
          (itemCount (key head.name) session.engine.values) operation
          (session.engine.perform operation).2
          (itemCount (key head.name) (session.engine.perform operation).1.values)) ∧
      ∀ step, (∀ operation, step ≠ .operate operation) →
        itemCount (key head.name) (session.step step).engine.values =
          itemCount (key head.name) session.engine.values := by
  have isList : Addresses mounting.form.fields .root (key head.name).segments
      ⟨.repeatable head template, .root⟩ := .here (named.findByName member rfl)
  obtain ⟨form, initial, admits⟩ := sparing.holds named isList start
  refine ⟨admits, fun operation spares => ?_, fun step other => ?_⟩
  · rw [← form] at named isList
    rw [← initial]
    exact Engine.perform_tally named isList spares
  · cases step with
    | operate operation => exact absurd rfl (other operation)
    | take => rfl
    | complete ticket result =>
        exact congrArg _ (session.engine.completeFetch_values ticket result)

def oneOrTwo : Repeatable :=
  { Repeatable.named "items" with
    validation := some ⟨none, none, none, some ⟨.string "1", ""⟩, some ⟨.string "2", ""⟩, none,
      none⟩ }

def oneItem : Engine.Mounting :=
  .ofFields [.repeatable oneOrTwo [.leaf (.fed "city" (.dependingOn []))]]
    (.object [("items", .array [.object []])])

/-- A second item is added, and no third one. -/
theorem oneItem_bounded :
    oneOrTwo.Admits (itemCount (key "items")
        ((mount oneItem).operate (.addItem "items")).engine.values) ∧
      itemCount (key "items") (((mount oneItem).operate (.addItem "items")).engine.perform
        (.addItem "items")).1.values = 2 := by
  have named : WellNamed oneItem.form.fields := by decide +kernel
  have parsed : parse "items" = .ok (key "items") := by decide +kernel
  have least : oneOrTwo.minItems = some 1 := by decide +kernel
  have most : oneOrTwo.maxItemCount = some 2 := by decide +kernel
  have one : itemCount (key "items") (Engine.mount oneItem).values = 1 := by decide +kernel
  have two : itemCount (key "items")
      ((mount oneItem).operate (.addItem "items")).engine.values = 2 := by decide +kernel
  have full : (((mount oneItem).operate (.addItem "items")).engine.addItem "items").2 =
      .error (.itemLimit "items" 2) := by decide +kernel
  have reaches (session : Session) : session.engine.Reaches "items" := by
    intro path read
    cases parsed.symm.trans read
    rfl
  have start : oneOrTwo.Admits (itemCount (key "items") (Engine.mount oneItem).values) := by
    rw [one]
    refine ⟨fun _ bound => ?_, fun _ bound => ?_⟩
    · cases least.symm.trans bound
      exact Nat.le_refl 1
    · cases most.symm.trans bound
      exact Nat.le_succ 1
  have sparing : Sparing oneItem (key "items") ((mount oneItem).operate (.addItem "items")) :=
    .stepped (.operate (.addItem "items")) .mounted (reaches _)
  generalize (mount oneItem).operate (.addItem "items") = session at *
  obtain ⟨admits, tally, _⟩ := sparing.bounds_hold named List.mem_cons_self start
  refine ⟨admits, ?_⟩
  have third := tally (.addItem "items") (reaches session)
  have name : oneOrTwo.name = "items" := rfl
  have answered : (session.engine.perform (.addItem "items")).2 =
      .added (.error (.itemLimit "items" 2)) := congrArg HostAnswer.added full
  rw [answered, name, two] at third
  generalize itemCount (key "items") (session.engine.perform (.addItem "items")).1.values = after
    at third ⊢
  cases third
  rfl

end Session

end DeclarativeForm
