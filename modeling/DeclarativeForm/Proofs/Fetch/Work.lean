import DeclarativeForm.Engine.Fetch
import DeclarativeForm.Engine.Submission
import DeclarativeForm.Engine.Wizard
import DeclarativeForm.Proofs.Fetch.Desk
import DeclarativeForm.Proofs.Outcome
import DeclarativeForm.Proofs.Sync.Binding

/-!
The work of an engine on its own account: starting flows, asking for options and clearing fields.
Such work is a chain of steps on the desk, keeps the form, the wishes of the host and the initial
values, and never takes back a notice. Every operation is such work, except that the removal of an
item first moves the slots of later items, and that a reset first empties everything.
-/

set_option autoImplicit false

namespace DeclarativeForm

/-- No key occurs twice in the tables that are moved with the items. -/
structure Store.Tidy (store : Store) : Prop where
  slots : Keyed.Distinct store.slots
  flows : Keyed.Distinct store.flows

theorem Store.Tidy.congr {left right : Store} (tidy : left.Tidy)
    (slots : right.slots = left.slots) (flows : right.flows = left.flows) : right.Tidy :=
  ⟨slots ▸ tidy.slots, flows ▸ tidy.flows⟩

theorem Store.Tidy.putSlot {store : Store} (tidy : store.Tidy) (key : String)
    (slot : OptionsSlot) : (store.putSlot key slot).Tidy :=
  ⟨tidy.slots.put key slot, tidy.flows⟩

theorem Store.Tidy.putFlow {store : Store} (tidy : store.Tidy) (key : String)
    (state : FlowState) : (store.putFlow key state).Tidy :=
  ⟨tidy.slots, tidy.flows.put key state⟩

theorem Store.Tidy.complete {store after : Store} {ticket : Ticket} {result : FetchResult}
    (tidy : store.Tidy) (taken : store.complete ticket result = some after) : after.Tidy := by
  rcases Store.complete_put taken with ⟨key, _, slot, _, rfl⟩ | ⟨key, _, state, _, rfl⟩
  · exact tidy.putSlot key slot
  · exact tidy.putFlow key state

namespace Engine

open Desk

/-- Work of an engine on its own account. -/
structure Works (before after : Engine) : Prop where
  chain : Chain before.desk after.desk
  tidy : before.store.Tidy → after.store.Tidy
  form : after.form = before.form
  options : after.options = before.options
  initial : after.store.initial = before.store.initial
  notices : before.notices <+: after.notices

namespace Works

variable {first second third : Engine}

theorem refl (engine : Engine) : engine.Works engine :=
  ⟨.refl, id, rfl, rfl, rfl, List.prefix_refl _⟩

theorem trans (one : first.Works second) (two : second.Works third) : first.Works third :=
  ⟨one.chain.trans two.chain, fun tidy => two.tidy (one.tidy tidy), two.form.trans one.form,
    two.options.trans one.options, two.initial.trans one.initial, one.notices.trans two.notices⟩

theorem quiet (slots : second.store.slots = first.store.slots)
    (flows : second.store.flows = first.store.flows) (pending : second.pending = first.pending)
    (next : second.next = first.next) (form : second.form = first.form)
    (options : second.options = first.options) (notices : first.notices <+: second.notices)
    (initial : second.store.initial = first.store.initial := by rfl) : first.Works second where
  chain := by
    rw [desk_congr slots flows pending next]
  tidy tidy := tidy.congr slots flows
  form := form
  options := options
  initial := initial
  notices := notices

theorem foldl {α : Type} {step : Engine → α → Engine}
    (works : ∀ (engine : Engine) (item : α), engine.Works (step engine item)) (items : List α)
    (engine : Engine) : engine.Works (items.foldl step engine) := by
  induction items generalizing engine with
  | nil => exact refl engine
  | cons item rest ih => exact (works engine item).trans (ih _)

end Works

theorem note_works (engine : Engine) (notices : List Notice) :
    engine.Works (engine.note notices) :=
  .quiet rfl rfl rfl rfl rfl rfl (List.prefix_append _ _)

theorem emit_works (engine : Engine) (event : Event) : engine.Works (engine.emit event) :=
  .quiet rfl rfl rfl rfl rfl rfl (List.prefix_refl _)

/-! ### Options of fields -/

theorem requestOptions_works (engine : Engine) (key : String) (source : OptionsSource)
    (args : Option (List Json)) (force : Bool) :
    engine.Works (engine.requestOptions key source args force).1 where
  chain := (requestOptions_step engine key source args force).chain
  tidy tidy := tidy.putSlot key _
  form := rfl
  options := rfl
  initial := rfl
  notices := List.prefix_refl _

theorem askFor_works (engine : Engine) (touched : Option String) (binding : OptionBinding) :
    engine.Works (engine.askFor touched binding) :=
  requestOptions_works engine _ _ _ _

private theorem foldl_requestBinding_works (touched : Option String)
    (bindings : List OptionBinding) (state : Engine × List Clearing) :
    state.1.Works (bindings.foldl (requestBinding touched) state).1 :=
  foldl_requestBinding_keep state.1.Works
    (fun _ binding _ works => works.trans (askFor_works _ touched binding)) (.refl _)

/-- Clearing fields leaves alone what depends on neither values nor errors. -/
theorem foldl_applyClearing_keeps {α : Type} (read : Store → α)
    (same : ∀ store values errors, read { store with values, errors } = read store)
    (clearings : List Clearing) (state : Store × Bool) :
    read (clearings.foldl applyClearing state).1 = read state.1 := by
  induction clearings generalizing state with
  | nil => rfl
  | cons clearing rest ih =>
      have here : read (applyClearing state clearing).1 = read state.1 := by
        unfold applyClearing
        repeat' split
        all_goals first
          | rfl
          | exact same _ _ _
      exact (ih _).trans here

theorem foldl_applyClearing_tables (clearings : List Clearing) (state : Store × Bool) :
    (clearings.foldl applyClearing state).1.slots = state.1.slots ∧
      (clearings.foldl applyClearing state).1.flows = state.1.flows ∧
      (clearings.foldl applyClearing state).1.initial = state.1.initial := by
  refine ⟨?_, ?_, ?_⟩
  · exact foldl_applyClearing_keeps Store.slots (fun _ _ _ => rfl) clearings state
  · exact foldl_applyClearing_keeps Store.flows (fun _ _ _ => rfl) clearings state
  · exact foldl_applyClearing_keeps Store.initial (fun _ _ _ => rfl) clearings state

theorem syncPass_works (touched : Option String) (engine : Engine)
    (bindings : List OptionBinding) : engine.Works (syncPass touched engine bindings).1 := by
  have requested := foldl_requestBinding_works touched bindings (engine, [])
  have cleared := foldl_applyClearing_tables
    (bindings.foldl (requestBinding touched) (engine, [])).2
    ((bindings.foldl (requestBinding touched) (engine, [])).1.store, false)
  exact requested.trans
    (.quiet cleared.1 cleared.2.1 rfl rfl rfl rfl (List.prefix_refl _) cleared.2.2)

theorem syncPasses_works (touched : Option String) (fuel passes : Nat) (engine : Engine) :
    engine.Works (syncPasses touched fuel passes engine) :=
  syncPasses_keep engine.Works (fun _ _ works => works.trans (note_works _ _))
    (fun _ works => works.trans (syncPass_works touched _ _)) fuel passes (.refl engine)

/-! ### Flows -/

theorem takeProgress_works {engine : Engine} {key : String} {progress : FlowProgress}
    (chain : Chain engine.desk (engine.takeProgress key progress).desk) :
    engine.Works (engine.takeProgress key progress) where
  chain := chain
  tidy tidy := tidy.putFlow key progress.state
  form := rfl
  options := rfl
  initial := rfl
  notices := List.prefix_refl _

theorem syncFlow_works (engine : Engine) (place : FlowPlace) :
    engine.Works (engine.syncFlow place) := by
  unfold syncFlow
  dsimp only
  split
  · exact .refl engine
  · exact takeProgress_works (start_chain engine place.flow place.path.text _)

theorem syncFlows_works (engine : Engine) : engine.Works engine.syncFlows :=
  .foldl syncFlow_works _ engine

theorem refreshDerived_works (engine : Engine) (touched : Option String) :
    engine.Works (engine.refreshDerived touched) :=
  (syncFlows_works engine).trans (syncPasses_works touched _ 0 _)

theorem refreshed_works (engine : Engine) (touched : Option String) :
    engine.Works (engine.refreshDerived touched).emitChange :=
  (refreshDerived_works engine touched).trans (emit_works _ _)

theorem applyFlowChange_keeps {α : Type} (read : Store → α)
    (same : ∀ store values errors, read { store with values, errors } = read store)
    (store : Store) (path : FieldPath) (flow : Flow) (id value : String) (change : FlowChange) :
    read (applyFlowChange store path flow id value change) = read store := by
  have cleared (keys : List String) (store : Store) :
      read (keys.foldl (fun store step => store.clearError (path.text ++ "." ++ step)) store) =
        read store := by
    induction keys generalizing store with
    | nil => rfl
    | cons key rest ih => exact (ih _).trans (same store _ _)
  unfold applyFlowChange
  dsimp only
  rw [cleared]
  repeat' split
  all_goals exact (same _ _ _).trans (same store _ _)

theorem applyFlowChange_tables (store : Store) (path : FieldPath) (flow : Flow)
    (id value : String) (change : FlowChange) :
    (applyFlowChange store path flow id value change).slots = store.slots ∧
      (applyFlowChange store path flow id value change).flows = store.flows ∧
      (applyFlowChange store path flow id value change).initial = store.initial := by
  refine ⟨?_, ?_, ?_⟩
  · exact applyFlowChange_keeps Store.slots (fun _ _ _ => rfl) store path flow id value change
  · exact applyFlowChange_keeps Store.flows (fun _ _ _ => rfl) store path flow id value change
  · exact applyFlowChange_keeps Store.initial (fun _ _ _ => rfl) store path flow id value change

private theorem putFlow_works (engine : Engine) (key : String) (state : FlowState)
    (present : engine.store.flow? key = some state) :
    engine.Works { engine with store := engine.store.putFlow key state } := by
  have same := takeProgress_same_step engine key state state present fun _ => rfl
  simpa only [takeProgress, List.append_nil] using takeProgress_works same.chain

private theorem withChoice_works {engine : Engine} {path : FieldPath} {flow : Flow}
    {state : FlowState} {index : Nat} {id value : String} {scope : Scope}
    {progress : FlowProgress} {change : FlowChange}
    (present : engine.store.flow? path.text = some state)
    (chosen : progress = flow.choose path.text state index id value scope engine.next)
    (tickets : change.tickets = progress.tickets) :
    engine.Works (engine.withChoice path flow id value progress change) := by
  subst chosen
  have taken := takeProgress_works
    (choose_chain engine flow path.text state index id value scope present)
  have written := applyFlowChange_tables (engine.store.putFlow path.text
    (flow.choose path.text state index id value scope engine.next).state) path flow id value change
  refine taken.trans
    (.quiet written.1 written.2.1 ?_ rfl rfl rfl (List.prefix_refl _) written.2.2)
  change engine.pending ++ change.tickets = _
  rw [tickets]
  rfl

theorem selectFlowStep_works (engine : Engine) (text id value : String) :
    engine.Works (engine.selectFlowStep text id value).1 := by
  have reached := engine.selectFlowStep_choice text id value
  generalize engine.selectFlowStep text id value = result at reached ⊢
  cases reached with
  | refused rejection => exact .refl engine
  | @ignored path flow place started state found starts present selection unapplied =>
      subst starts
      exact (engine.syncFlow_works _).trans (putFlow_works _ path.text state present)
  | applied found starts present isStep enabled chosen tickets output =>
      subst starts
      have written := (engine.syncFlow_works _).trans (withChoice_works present chosen tickets)
      exact written.trans (refreshed_works _ _)

/-! ### Operations that are work -/

theorem recordErrors_keeps {α : Type} (read : Store → α)
    (same : ∀ store errors, read { store with errors } = read store) (keys : List String)
    (errors : ErrorMap) (store : Store) : read (recordErrors store keys errors) = read store := by
  unfold recordErrors
  induction keys generalizing store with
  | nil => rfl
  | cons key rest ih =>
      rw [List.foldl_cons]
      cases errors.find? key with
      | none => exact (ih (store.clearError key)).trans (same store _)
      | some message => exact (ih (store.setError key message)).trans (same store _)

theorem recordErrors_tables (keys : List String) (errors : ErrorMap) (store : Store) :
    (recordErrors store keys errors).slots = store.slots ∧
      (recordErrors store keys errors).flows = store.flows ∧
      (recordErrors store keys errors).initial = store.initial := by
  refine ⟨?_, ?_, ?_⟩
  · exact recordErrors_keeps Store.slots (fun _ _ => rfl) keys errors store
  · exact recordErrors_keeps Store.flows (fun _ _ => rfl) keys errors store
  · exact recordErrors_keeps Store.initial (fun _ _ => rfl) keys errors store

theorem recordLocated_works (engine : Engine) (key : String) (located : Located) :
    engine.Works (engine.recordLocated key located) :=
  .quiet (recordErrors_tables _ _ _).1 (recordErrors_tables _ _ _).2.1 rfl rfl rfl rfl
    (List.prefix_append _ _) (recordErrors_tables _ _ _).2.2

theorem withValue_works (engine : Engine) (path : FieldPath) (located : Located) (value : Json) :
    engine.Works (engine.withValue path located value) := by
  have written : engine.Works { engine with store := engine.store.setValue path value } :=
    .quiet rfl rfl rfl rfl rfl rfl (List.prefix_refl _)
  unfold withValue
  dsimp only
  split
  · exact written.trans (recordLocated_works _ _ _)
  · exact written

theorem setValue_works (engine : Engine) (text : String) (value : Json) :
    engine.Works (engine.setValue text value).1 := by
  have reached := engine.setValue_write text value
  generalize engine.setValue text value = result at reached ⊢
  cases reached with
  | refused rejection => exact .refl engine
  | @written path located found complete =>
      exact (engine.withValue_works path located value).trans (refreshed_works _ _)

theorem validateField_works (engine : Engine) (text : String) :
    engine.Works (engine.validateField text).1 := by
  unfold validateField
  cases engine.locate text with
  | error rejection => exact .refl engine
  | ok found => exact recordLocated_works engine _ _

theorem blur_works (engine : Engine) (text : String) : engine.Works (engine.blur text).1 := by
  unfold blur
  split
  · cases parsePath text <;> exact .refl engine
  · exact validateField_works engine text

theorem validateAll_works (engine : Engine) : engine.Works engine.validateAll :=
  .quiet rfl rfl rfl rfl rfl rfl (List.prefix_append _ _)

theorem validateStep_works (engine : Engine) : engine.Works engine.validateStep.1 := by
  refine .quiet rfl rfl rfl rfl rfl rfl ?_
  exact ⟨_, (List.append_assoc _ _ _).symm⟩

theorem move_works (engine : Engine) (navigator : Navigator) (transition : Transition) :
    engine.Works (engine.move navigator transition) := by
  cases transition <;> exact .quiet rfl rfl rfl rfl rfl rfl (List.prefix_refl _)

theorem nextStep_works (engine : Engine) : engine.Works engine.nextStep.1 := by
  unfold nextStep
  split
  · exact .refl engine
  · have validated := validateStep_works engine
    dsimp only
    split
    · exact validated
    · exact validated.trans (move_works _ _ _)

theorem addItem_works (engine : Engine) (text : String) :
    engine.Works (engine.addItem text).1 := by
  have reached := engine.addItem_addition text
  generalize engine.addItem text = result at reached ⊢
  cases reached with
  | refused rejection => exact .refl engine
  | most found message rejection =>
      exact .quiet rfl rfl rfl rfl rfl rfl (List.prefix_refl _)
  | @added path head template place found =>
      have written : engine.Works (engine.withNewItem path template) :=
        .quiet rfl rfl rfl rfl rfl rfl (List.prefix_refl _)
      exact written.trans (refreshed_works _ _)

theorem refreshOptions_works (engine : Engine) (text : String) :
    engine.Works (engine.refreshOptions text).1 := by
  unfold refreshOptions
  cases engine.locate text with
  | error rejection => exact .refl engine
  | ok found =>
      have noted := note_works engine (optionBindingNotices engine.form.fields engine.values)
      dsimp only
      split
      · exact noted
      · exact noted.trans (requestOptions_works _ _ _ _ _)

end Engine

end DeclarativeForm
