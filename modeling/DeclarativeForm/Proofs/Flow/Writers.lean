import DeclarativeForm.Engine.Flow
import DeclarativeForm.Proofs.Flow.Choice
import DeclarativeForm.Proofs.Items.Fresh
import DeclarativeForm.Proofs.Path.Grammar
import DeclarativeForm.Proofs.Path.Lens
import DeclarativeForm.Proofs.Path.Relocation
import DeclarativeForm.Proofs.Sync.Still
import DeclarativeForm.Proofs.Tree.Agreement
import Mathlib.Logic.Function.Basic

/-!
Who wrote the value of a flow last. A choice goes to the state of a flow and to the value at its
path; other writes go to the value alone, and the removal of an item moves both, the state under its
key and the value in its list. Next to the engine runs a record of who wrote the value at each path
last, and after every operation the state of a flow and what is shown of it are as the last writer
has left them.
-/

set_option autoImplicit false

namespace DeclarativeForm

open FieldPath

/-! ### Writers -/

def Json.shown? : Json → Option String
  | .string text => filled? text
  | _ => none

theorem Json.shown?_eq_some_iff {value : Json} {text : String} :
    value.shown? = some text ↔ text ≠ "" ∧ value = .string text := by
  cases value with
  | string other =>
      rw [shown?, filled?, Option.ite_none_left_eq_some, Option.some.injEq, Json.string.injEq]
      constructor
      · rintro ⟨filled, rfl⟩
        exact ⟨filled, rfl⟩
      · rintro ⟨filled, rfl⟩
        exact ⟨filled, rfl⟩
  | _ =>
      constructor
      · intro same
        cases same
      · rintro ⟨_, same⟩
        cases same

def FieldPath.ofText (text : String) : FieldPath := (parse text).toOption.getD .root

theorem FieldPath.ofText_eq {text : String} {path : FieldPath} (parsed : parse text = .ok path) :
    ofText text = path := by
  rw [ofText, parsed]
  rfl

/-- Who wrote the value at each path last. -/
abbrev Writers := FieldPath → Writer

namespace Engine

def shown? (engine : Engine) (path : FieldPath) : Option String :=
  (path.get? engine.values).bind Json.shown?

/-- Nobody has written yet, except where the initial values show something. -/
def firstWriters (engine : Engine) : Writers := fun path =>
  if engine.shown? path = none then .nobody else .other

/-- Something else has written wherever another text is shown than before. -/
def writersSince (before after : Engine) (writers : Writers) : Writers := fun path =>
  if after.shown? path = before.shown? path then writers path else .other

end Engine

/-- The writers after an operation. Values that are set or come with an item are written by
something else than a choice; the removal of an item writes nothing, it moves the values of later
items together with their writers. -/
def Writers.after (writers : Writers) (before after : Engine) :
    HostOperation → HostAnswer → Writers
  | .setValue _ _, _ => before.writersSince after writers
  | .addItem _, _ => before.writersSince after writers
  | .removeItem text index, .written (.ok _) => fun path =>
    writers ((ofText text).beforeRemoval index path)
  | .selectFlowStep text id _, .selected (.ok (.applied _)) =>
    Function.update writers (ofText text) (.choice id)
  | .reset, _ => after.firstWriters
  | .submit _, .submitted (.submitted _) _ => after.firstWriters
  | _, _ => writers

/-! ### States that are kept -/

structure Flow.Carries (flow : Flow) (before after : Option FlowState) : Prop where
  steps : (∀ state, before = some state → state.HasStepsOf flow) →
    ∀ state, after = some state → state.HasStepsOf flow
  value : ∀ id, (after.getD .blank).value id = (before.getD .blank).value id

namespace Flow.Carries

variable {flow : Flow} {before middle after : Option FlowState}

theorem of_eq (same : after = before) : flow.Carries before after := by
  subst same
  exact ⟨id, fun _ => rfl⟩

theorem trans (one : flow.Carries before middle) (two : flow.Carries middle after) :
    flow.Carries before after :=
  ⟨fun steps => two.steps (one.steps steps), fun id => (two.value id).trans (one.value id)⟩

theorem of_start {path : FieldPath} {context : Context} {state : FlowState}
    (isStart : FlowPlace.IsStart ⟨path, flow, context⟩ state) : flow.Carries none (some state) where
  steps _ _ same := Option.some.inj same ▸ isStart.steps
  value id := isStart.value_eq id

end Flow.Carries

namespace Engine

variable {engine : Engine} {path : FieldPath} {flow : Flow} {place : Context}

theorem Still.shown? {after : Engine} (still : engine.Still after) (path : FieldPath) :
    after.shown? path = engine.shown? path := by
  unfold Engine.shown?
  rw [still.values]

theorem refreshDerived_carries (touched : Option String) (named : WellNamed engine.form.fields)
    (addresses : Addresses engine.form.fields .root path.segments ⟨.flow flow, place⟩) :
    flow.Carries (engine.store.flow? path.text)
      ((engine.refreshDerived touched).store.flow? path.text) := by
  rcases flow?_refreshed touched named addresses with kept | ⟨absent, state, isThere, isStart⟩
  · exact .of_eq kept
  · rw [absent, isThere]
    exact .of_start isStart

/-- Bringing fields up to date clears leaves, and no flow shows anything else. -/
theorem shown?_refreshDerived (touched : Option String) (named : WellNamed engine.form.fields)
    (addresses : Addresses engine.form.fields .root path.segments ⟨.flow flow, place⟩) :
    (engine.refreshDerived touched).shown? path = engine.shown? path := by
  have same := (engine.refreshDerived_within touched named).others path ?_
  · rw [shown?, same, shown?]
  · rintro target ⟨field, around, isLeaf⟩
    rcases isLeaf.compare (fun _ _ same => by cases same) addresses with
      apart | ⟨_, same⟩ | ⟨_, _, _, _, same, _⟩
    · exact apart
    · cases same
    · cases same

def flowAt (engine : Engine) (path : FieldPath) : FlowState :=
  (engine.store.flow? path.text).getD .blank

/-- The state of the flow at a path and what is shown there are as the last writer has left them. A
path that no text reads has no choices. -/
structure Tracks (engine : Engine) (path : FieldPath) (flow : Flow) (writer : Writer) : Prop where
  steps : ∀ state, engine.store.flow? path.text = some state → state.HasStepsOf flow
  stands : flow.Stands (engine.flowAt path) (engine.shown? path) writer
  unread : ¬path.InRange → (∀ id, (engine.flowAt path).value id = "") ∧ ∀ id, writer ≠ .choice id

namespace Tracks

variable {after written : Engine} {writer : Writer} {writers : Writers}

theorem carried (tracks : engine.Tracks path flow writer)
    (carries : flow.Carries (engine.store.flow? path.text) (after.store.flow? path.text))
    (shown : after.shown? path = engine.shown? path) : after.Tracks path flow writer where
  steps := carries.steps tracks.steps
  stands := shown ▸ tracks.stands.congr carries.value
  unread far := by
    obtain ⟨empty, unchosen⟩ := tracks.unread far
    exact ⟨fun id => (carries.value id).trans (empty id), unchosen⟩

theorem still (tracks : engine.Tracks path flow writer) (still : engine.Still after) :
    after.Tracks path flow writer :=
  tracks.carried (.of_eq (still.flow? _)) (still.shown? path)

theorem overwritten (tracks : engine.Tracks path flow (writers path))
    (carries : flow.Carries (engine.store.flow? path.text) (after.store.flow? path.text)) :
    after.Tracks path flow (engine.writersSince after writers path) := by
  unfold writersSince
  by_cases shown : after.shown? path = engine.shown? path
  · rw [if_pos shown]
    exact tracks.carried carries shown
  · rw [if_neg shown]
    obtain ⟨point, filled⟩ := tracks.stands.exists_filledUpTo
    refine ⟨carries.steps tracks.steps, .overwritten (filled.congr carries.value) _, fun far => ?_⟩
    obtain ⟨empty, _⟩ := tracks.unread far
    refine ⟨fun id => (carries.value id).trans (empty id), ?_⟩
    intro _ same
    cases same

theorem derived (tracks : engine.Tracks path flow writer) (named : WellNamed engine.form.fields)
    (addresses : Addresses engine.form.fields .root path.segments ⟨.flow flow, place⟩)
    (touched : Option String) : (engine.refreshDerived touched).Tracks path flow writer :=
  tracks.carried (refreshDerived_carries touched named addresses)
    (shown?_refreshDerived touched named addresses)

theorem refreshed (tracks : written.Tracks path flow writer) (form : written.form = engine.form)
    (named : WellNamed engine.form.fields)
    (addresses : Addresses engine.form.fields .root path.segments ⟨.flow flow, place⟩)
    (touched : Option String) :
    (written.refreshDerived touched).emitChange.Tracks path flow writer := by
  rw [← form] at named addresses
  exact (tracks.derived named addresses touched).still (emitChange_still _)

theorem afterWrite (tracks : engine.Tracks path flow (writers path))
    (named : WellNamed engine.form.fields)
    (addresses : Addresses engine.form.fields .root path.segments ⟨.flow flow, place⟩)
    (form : written.form = engine.form) (flows : written.store.flows = engine.store.flows)
    (touched : Option String) :
    (written.refreshDerived touched).emitChange.Tracks path flow
      (engine.writersSince (written.refreshDerived touched).emitChange writers path) := by
  rw [← form] at named addresses
  have carries := refreshDerived_carries touched named addresses
  have before : written.store.flow? path.text = engine.store.flow? path.text := by
    rw [Store.flow?, flows]
    rfl
  rw [before] at carries
  exact tracks.overwritten (carries.trans (.of_eq ((emitChange_still _).flow? _)))

end Tracks

theorem tracks_of_noFlows (noFlows : engine.store.flows = []) (path : FieldPath) (flow : Flow) :
    engine.Tracks path flow (engine.firstWriters path) := by
  have absent : engine.store.flow? path.text = none := by
    rw [Store.flow?, noFlows]
    rfl
  have empty (id : String) : (engine.flowAt path).value id = "" := by
    rw [flowAt, absent]
    rfl
  have steps : ∀ state, engine.store.flow? path.text = some state → state.HasStepsOf flow := by
    rw [absent]
    intro state same
    cases same
  unfold firstWriters
  by_cases blank : engine.shown? path = none
  · rw [if_pos blank]
    refine ⟨steps, ?_, fun _ => ⟨empty, ?_⟩⟩
    · rw [blank]
      exact .untouched empty
    · intro _ same
      cases same
  · rw [if_neg blank]
    refine ⟨steps, .overwritten (flow.filledUpTo_of_empty empty) _, fun _ => ⟨empty, ?_⟩⟩
    intro _ same
    cases same

/-! ### Writing and choosing -/

section Operations

variable {writers : Writers} (named : WellNamed engine.form.fields)
  (addresses : Addresses engine.form.fields .root path.segments ⟨.flow flow, place⟩)

include named addresses

theorem setValue_tracks (tracks : engine.Tracks path flow (writers path)) (text : String)
    (value : Json) :
    (engine.setValue text value).1.Tracks path flow
      (engine.writersSince (engine.setValue text value).1 writers path) := by
  have reached := engine.setValue_write text value
  generalize engine.setValue text value = result at reached ⊢
  cases reached with
  | refused rejection => exact tracks.overwritten (.of_eq rfl)
  | @written target located found complete =>
      refine tracks.afterWrite named addresses (engine.withValue_form _ _ _) ?_ _
      unfold withValue
      dsimp only
      split
      · exact (recordErrors_tables _ _ _).2.1
      · rfl

theorem addItem_tracks (tracks : engine.Tracks path flow (writers path)) (text : String) :
    (engine.addItem text).1.Tracks path flow
      (engine.writersSince (engine.addItem text).1 writers path) := by
  have reached := engine.addItem_addition text
  generalize engine.addItem text = result at reached ⊢
  cases reached with
  | refused rejection => exact tracks.overwritten (.of_eq rfl)
  | most found message rejection => exact tracks.overwritten (.of_eq rfl)
  | @added target head template around found =>
      have form : (engine.withNewItem target template).form = engine.form := rfl
      have flows : (engine.withNewItem target template).store.flows = engine.store.flows := rfl
      exact tracks.afterWrite named addresses form flows _

variable {target : FieldPath} {other : Flow} {around : Context}
  (there : Addresses engine.form.fields .root target.segments ⟨.flow other, around⟩)

include there

theorem syncFlow_tracks {writer : Writer} (tracks : engine.Tracks path flow writer) :
    (engine.syncFlow ⟨target, other, around⟩).Tracks path flow writer := by
  refine tracks.carried ?_ ?_
  · rcases engine.flow?_syncFlow ⟨target, other, around⟩ path.text with
      kept | ⟨absent, sameKey, state, isThere, isStart⟩
    · exact .of_eq kept
    · obtain rfl : target = path :=
        (IsKeyPath.node there rfl).eq_of_text (IsKeyPath.node addresses rfl) named sameKey
      cases there.locateFrom.symm.trans addresses.locateFrom
      rw [absent, isThere]
      exact .of_start isStart
  · rw [shown?, (engine.syncFlow_keeps _).1]
    rfl

omit named in
theorem shown?_of_apart {after : Engine} (elsewhere : target ≠ path) {output : Option String}
    (values : after.values = match output with
      | some text => target.set engine.values (.string text)
      | none => target.without engine.values) :
    after.shown? path = engine.shown? path := by
  have apart : Apart target.segments path.segments := by
    rcases there.compare (fun _ _ same => by cases same) addresses with
      apart | ⟨same, _⟩ | ⟨_, _, _, _, same, _⟩
    · exact apart
    · exact absurd (congrArg FieldPath.mk same) elsewhere
    · cases same
  have same : path.get? after.values = path.get? engine.values := by
    rw [values]
    cases output with
    | some text => exact get?_set_of_apart apart addresses.endsInKey _ _
    | none =>
        dsimp only
        by_cases absent : target.get? engine.values = none
        · rw [without_eq_self absent]
        · exact (without_edited there.endsInKey absent).getAt_of_apart apart
  rw [shown?, same]
  rfl

theorem withChoice_tracks (tracks : engine.Tracks path flow (writers path))
    (distinct : (flow.steps.map FlowStep.id).Nodup) (readable : target.InRange) {id : String}
    {state : FlowState} {index : Nat} {change : FlowChange}
    (present : engine.store.flow? target.text = some state)
    (isStep : other.stepIndex id = some index) (enabled : other.isStepEnabled state index = true)
    (value : String) (scope : Scope)
    (output : change.output = if id = other.outputStepId then some value else none) :
    (engine.withChoice target other id value
      (other.choose target.text state index id value scope engine.next) change).Tracks path flow
        (Function.update writers target (.choice id) path) := by
  let progress := other.choose target.text state index id value scope engine.next
  let chosen := engine.withChoice target other id value progress change
  change chosen.Tracks path flow _
  have flows : chosen.store.flows = engine.store.flows.put target.text progress.state :=
    (applyFlowChange_tables _ _ _ _ _ _).2.1
  have values : chosen.values = match change.output with
      | some output => target.set engine.values (.string output)
      | none => target.without engine.values := applyFlowChange_values _ _ _ _ _ _
  by_cases here : target = path
  · subst here
    cases there.locateFrom.symm.trans addresses.locateFrom
    have isThere : chosen.store.flow? target.text = some progress.state := by
      rw [Store.flow?, flows, Keyed.find?_put_self]
    have shown : chosen.shown? target =
        if id = flow.outputStepId then filled? value else none := by
      rw [shown?, values, output]
      by_cases isOutput : id = flow.outputStepId
      · rw [if_pos isOutput, if_pos isOutput]
        exact congrArg (·.bind Json.shown?) (getAt_setAt _ _ _)
      · rw [if_neg isOutput, if_neg isOutput]
        exact congrArg (·.bind Json.shown?) (get?_without addresses.endsInKey _)
    have steps := tracks.steps state present
    have stands := tracks.stands
    rw [flowAt, present, Option.getD_some] at stands
    rw [Function.update_self]
    refine ⟨?_, ?_, fun unread => absurd readable unread⟩
    · rw [isThere]
      intro after same
      cases same
      exact Flow.choose_steps steps _ _ _ _ _ _
    · rw [flowAt, isThere, shown]
      exact stands.choose steps distinct isStep enabled _ _ _ _
  · rw [Function.update_of_ne (Ne.symm here)]
    refine tracks.carried (.of_eq ?_) (shown?_of_apart addresses there here values)
    rw [Store.flow?, flows]
    refine Keyed.find?_put_other (fun same => here ?_) _ _
    exact (IsKeyPath.node there rfl).eq_of_text (IsKeyPath.node addresses rfl) named same.symm

end Operations

theorem selectFlowStep_tracks {writers : Writers} (named : WellNamed engine.form.fields)
    (addresses : Addresses engine.form.fields .root path.segments ⟨.flow flow, place⟩)
    (distinct : (flow.steps.map FlowStep.id).Nodup)
    (tracks : engine.Tracks path flow (writers path)) (text id value : String) :
    (engine.selectFlowStep text id value).1.Tracks path flow
      (writers.after engine (engine.selectFlowStep text id value).1 (.selectFlowStep text id value)
        (.selected (engine.selectFlowStep text id value).2) path) := by
  have reached := engine.selectFlowStep_choice text id value
  generalize engine.selectFlowStep text id value = result at reached ⊢
  cases reached with
  | refused rejection => exact tracks
  | @ignored target other around started state found starts present selection unapplied =>
      subst starts
      have started := syncFlow_tracks named addresses (locate_eq_ok found).2 tracks
      have same : (engine.syncFlow ⟨target, other, around⟩).Still
          { engine.syncFlow ⟨target, other, around⟩ with
            store := (engine.syncFlow ⟨target, other, around⟩).store.putFlow target.text state } :=
        ⟨rfl, Keyed.put_eq_self present⟩
      have kept := started.still same
      cases selection with
      | applied change => exact absurd rfl (unapplied change)
      | locked => exact kept
      | unknownStep => exact kept
  | @applied target other around started state index progress change found starts present isStep
      enabled chosen tickets output =>
      subst starts chosen
      obtain ⟨parsed, there⟩ := locate_eq_ok found
      have plain := there.isPlain named rfl
      have readable : target.InRange :=
        (parse_text_eq_ok_iff plain).mp (parse_text_of_parse plain parsed)
      have started := syncFlow_tracks named addresses there tracks
      have form := (engine.syncFlow_works ⟨target, other, around⟩).form
      rw [← form] at named addresses there
      have written := withChoice_tracks named addresses there started distinct readable present
        isStep enabled value (around.scope (engine.syncFlow ⟨target, other, around⟩).values) output
      change Tracks _ path flow (Function.update writers (ofText text) (.choice id) path)
      rw [ofText_eq parsed]
      exact written.refreshed rfl named addresses _

/-! ### Removing -/

section Removal

variable {list : FieldPath} {head : Repeatable} {template : List Node} {around : Context}
  {index : Nat} (named : WellNamed engine.form.fields)
  (isList : Addresses engine.form.fields .root list.segments ⟨.repeatable head template, around⟩)
  (addresses : Addresses engine.form.fields .root path.segments ⟨.flow flow, place⟩)

include isList addresses

theorem shown?_withoutItem (inRange : index < itemCount list engine.values) :
    (engine.withoutItem list index).shown? path =
      engine.shown? (list.beforeRemoval index path) := by
  obtain ⟨items, found, inside, _⟩ := exists_items inRange
  have same : path.get? (engine.withoutItem list index).values =
      (list.beforeRemoval index path).get? engine.values := by
    rw [withoutItem_values found inside]
    refine getAt_former found ?_
    rcases addresses.compare (fun _ _ same => by cases same) isList with
      apart | ⟨_, same⟩ | ⟨_, _, position, back, _, below⟩
    · exact apart.not_prefix
    · cases same
    · intro within
      have longer := within.length_le
      rw [below, List.length_append, List.length_cons] at longer
      omega
  rw [shown?, same]
  rfl

include named

/-- What a flow is filled with and what it shows move along with its item. -/
theorem withoutItem_tracks {writers : Writers} (orderly : engine.Orderly engine.form.fields)
    (tracked : ∀ other around,
      Addresses engine.form.fields .root other.segments ⟨.flow flow, around⟩ →
        engine.Tracks other flow (writers other))
    (inRange : index < itemCount list engine.values) :
    (engine.withoutItem list index).Tracks path flow (writers (list.beforeRemoval index path)) := by
  obtain ⟨before, wasThere⟩ := addresses.former index list.segments
  have former : engine.Tracks (list.beforeRemoval index path) flow _ := tracked _ before wasThere
  have shown := shown?_withoutItem isList addresses inRange
  by_cases readable : (list.beforeRemoval index path).InRange
  · have moves : afterRemoval list index (list.beforeRemoval index path) = some path := by
      rw [afterRemoval, beforeRemoval, shift_former readable]
      rfl
    have same : (engine.withoutItem list index).store.flow? path.text =
        engine.store.flow? (list.beforeRemoval index path).text :=
      orderly.flows.find?_moved named isList (.node wasThere rfl) moves
    refine ⟨?_, ?_, fun far => absurd (inRange_of_beforeRemoval readable) far⟩
    · rw [same]
      exact former.steps
    · rw [flowAt, same, shown]
      exact former.stands
  · -- Nothing was chosen at a path that no text reads, so there is nothing that could have moved.
    obtain ⟨wasEmpty, unchosen⟩ := former.unread readable
    have idle (state : FlowState)
        (isThere : (engine.withoutItem list index).store.flow? path.text = some state) :
        state.HasStepsOf flow ∧ ∀ id, state.value id = "" := by
      obtain ⟨old, moves, isOld⟩ :=
        orderly.flows.exists_former named isList (.node addresses rfl) isThere
      obtain ⟨segments, shifts, same⟩ := Option.map_eq_some_iff.mp moves
      have tracks : ∃ writer, engine.Tracks old flow writer ∧ ¬old.InRange := by
        cases same
        rcases eq_former_of_shift shifts with same | ⟨same, position, member, large⟩
        · obtain rfl : old = list.beforeRemoval index ⟨segments⟩ := congrArg FieldPath.mk same
          exact ⟨_, former, readable⟩
        · obtain rfl : old = ⟨segments⟩ := congrArg FieldPath.mk same
          refine ⟨_, tracked _ _ addresses, fun inRange => ?_⟩
          exact Nat.not_lt.mpr large (inRange position member)
      obtain ⟨writer, tracks, far⟩ := tracks
      refine ⟨tracks.steps state isOld, fun id => ?_⟩
      have empty := (tracks.unread far).1 id
      have isState : engine.store.flow? old.text = some state := isOld
      rw [flowAt, isState] at empty
      exact empty
    have empty (id : String) : ((engine.withoutItem list index).flowAt path).value id = "" := by
      rw [flowAt]
      cases isThere : (engine.withoutItem list index).store.flow? path.text with
      | none => rfl
      | some state => exact (idle state isThere).2 id
    refine ⟨fun state isThere => (idle state isThere).1, ?_, fun _ => ⟨empty, unchosen⟩⟩
    rw [shown]
    exact former.stands.emptied unchosen empty

end Removal

theorem removeItem_tracks {writers : Writers} (named : WellNamed engine.form.fields)
    (addresses : Addresses engine.form.fields .root path.segments ⟨.flow flow, place⟩)
    (orderly : engine.Orderly engine.form.fields)
    (tracked : ∀ other around,
      Addresses engine.form.fields .root other.segments ⟨.flow flow, around⟩ →
        engine.Tracks other flow (writers other)) (text : String) (index : Nat) :
    (engine.removeItem text index).1.Tracks path flow
      (writers.after engine (engine.removeItem text index).1 (.removeItem text index)
        (.written (engine.removeItem text index).2) path) := by
  have reached := engine.removeItem_removal text index
  generalize engine.removeItem text index = result at reached ⊢
  cases reached with
  | refused rejection => exact tracked path place addresses
  | least found message rejection => exact (tracked path place addresses).still ⟨rfl, rfl⟩
  | @removed list head template around found inRange =>
      obtain ⟨parsed, isList⟩ := locate_eq_ok found
      have moved := withoutItem_tracks named isList addresses orderly tracked inRange
      change Tracks _ path flow (writers ((ofText text).beforeRemoval index path))
      rw [ofText_eq parsed]
      exact moved.refreshed rfl named addresses _

end Engine

end DeclarativeForm
