import DeclarativeForm.Proofs.Fetch.Work

/-!
What a host can ask of a mounted form besides fetching. Every such operation is work of the engine
on its own account, except that the removal of an item first moves what is kept for later items,
and that a reset first empties everything.
-/

set_option autoImplicit false

namespace DeclarativeForm

/-- What a host can ask of a mounted form besides fetching. -/
inductive HostOperation
  | setValue (text : String) (value : Json)
  | blur (text : String)
  | validateField (text : String)
  | validateAll
  | validateStep
  | addItem (text : String)
  | removeItem (text : String) (index : Nat)
  | selectFlowStep (text id value : String)
  | refreshOptions (text : String)
  | nextStep
  | previousStep
  | toggleDropdown (key : String)
  | closeDropdowns
  | togglePassword (key : String)
  | reset
  | submit (handler : Json → Except String Unit)

inductive HostAnswer
  | done
  | written (result : Except FormError Unit)
  | checked (result : Except FormError (Option String))
  | counted (errors : Nat)
  | added (result : Except FormError Nat)
  | selected (result : Except FormError FlowSelection)
  | moved (transition : Transition)
  | submitted (outcome : SubmitOutcome) (sent : List Json)

def Engine.perform (engine : Engine) : HostOperation → Engine × HostAnswer
  | .setValue text value =>
    let (engine, result) := engine.setValue text value
    (engine, .written result)
  | .blur text =>
    let (engine, result) := engine.blur text
    (engine, .checked result)
  | .validateField text =>
    let (engine, result) := engine.validateField text
    (engine, .checked result)
  | .validateAll => (engine.validateAll, .counted engine.validateAll.store.errors.length)
  | .validateStep =>
    let (engine, errors) := engine.validateStep
    (engine, .counted errors)
  | .addItem text =>
    let (engine, result) := engine.addItem text
    (engine, .added result)
  | .removeItem text index =>
    let (engine, result) := engine.removeItem text index
    (engine, .written result)
  | .selectFlowStep text id value =>
    let (engine, result) := engine.selectFlowStep text id value
    (engine, .selected result)
  | .refreshOptions text =>
    let (engine, result) := engine.refreshOptions text
    (engine, .written result)
  | .nextStep =>
    let (engine, transition) := engine.nextStep
    (engine, .moved transition)
  | .previousStep =>
    let (engine, transition) := engine.previousStep
    (engine, .moved transition)
  | .toggleDropdown key => (engine.toggleDropdown key, .done)
  | .closeDropdowns => (engine.closeDropdowns, .done)
  | .togglePassword key => (engine.togglePassword key, .done)
  | .reset => (engine.reset, .done)
  | .submit handler =>
    let submission := engine.submit handler
    (submission.engine, .submitted submission.outcome submission.sent)

/-- The repeatable and the item that an operation removes, if it succeeds in removing one. -/
def Engine.removal? (engine : Engine) : HostOperation → Option (String × Nat)
  | .removeItem text index =>
    match engine.locate text, (engine.removeItem text index).2 with
    | .ok (path, _), .ok () => some (path.text, index)
    | _, _ => none
  | _ => none

namespace Engine

open Desk

/-- The engine after an item was taken out and before anything was derived from that: the tables
and the queue are moved. -/
structure Removes (before : Engine) (repeatable : String) (removed : Nat) (after : Engine) :
    Prop where
  slots : after.store.slots = before.store.slots.reindex repeatable removed
  flows : after.store.flows = before.store.flows.reindex repeatable removed
  pending : after.pending = before.pending.filterMap fun ticket => ticket.reindex repeatable removed
  next : after.next = before.next
  form : after.form = before.form
  options : after.options = before.options
  initial : after.store.initial = before.store.initial
  notices : after.notices = before.notices

structure Empties (before after : Engine) : Prop where
  slots : after.store.slots = (Store.resetSlots before.next before.store.slots).1
  flows : after.store.flows = []
  pending : after.pending = []
  next : after.next = (Store.resetSlots before.next before.store.slots).2
  form : after.form = before.form
  options : after.options = before.options
  initial : after.store.initial = before.store.initial
  notices : before.notices <+: after.notices

/-- What an operation does: work, a removal and work, or emptying and work. -/
inductive Performed (before : Engine) (operation : HostOperation) : Engine → Prop
  | worked {after : Engine} (none : before.removal? operation = none) (works : before.Works after) :
      Performed before operation after
  | removed {repeatable : String} {index : Nat} {middle after : Engine}
      (some : before.removal? operation = some (repeatable, index))
      (removes : before.Removes repeatable index middle) (works : middle.Works after) :
      Performed before operation after
  | emptied {middle after : Engine} (none : before.removal? operation = none)
      (empties : before.Empties middle) (works : middle.Works after) :
      Performed before operation after

/-! ### Removing items -/

theorem Removes.tidy {before after : Engine} {repeatable : String} {removed : Nat}
    (removes : before.Removes repeatable removed after) : after.store.Tidy := by
  constructor
  · rw [removes.slots]
    exact Keyed.distinct_reindex _ _ _
  · rw [removes.flows]
    exact Keyed.distinct_reindex _ _ _

/-- The slots after a removal were there before, at targets that move to theirs. -/
theorem Removes.slotAt? {before after : Engine} {repeatable : String} {removed : Nat}
    (removes : before.Removes repeatable removed after) (tidy : before.store.Tidy)
    {target : FetchTarget} {found : OptionsSlot}
    (isThere : after.store.slotAt? target = some found) :
    ∃ old, FetchTarget.reindex old repeatable removed = some target ∧
      before.store.slotAt? old = some found := by
  cases target with
  | field path =>
      have here : Keyed.find? path after.store.slots = some found := isThere
      rw [removes.slots] at here
      obtain ⟨old, moves, there⟩ := Keyed.find?_reindex tidy.slots here
      refine ⟨.field old, ?_, there⟩
      simp only [FetchTarget.reindex, moves, Option.map_some]
  | flowStep path step =>
      cases flow : after.store.flow? path with
      | none =>
          simp only [Store.slotAt?, flow] at isThere
          cases isThere
      | some state =>
          have here : Keyed.find? path after.store.flows = some state := flow
          rw [removes.flows] at here
          obtain ⟨old, moves, there⟩ := Keyed.find?_reindex tidy.flows here
          refine ⟨.flowStep old step, ?_, ?_⟩
          · simp only [FetchTarget.reindex, moves, Option.map_some]
          · simp only [Store.slotAt?, flow] at isThere
            simp only [Store.slotAt?, Store.flow?, there, isThere]

/-- A removal is refused, or it takes out an item and derives the rest from that. -/
theorem removeItem_cases (engine : Engine) (text : String) (index : Nat) :
    engine.removal? (.removeItem text index) = none ∧
        engine.Works (engine.removeItem text index).1 ∨
      ∃ repeatable middle, engine.removal? (.removeItem text index) = some (repeatable, index) ∧
        engine.Removes repeatable index middle ∧
        middle.Works (engine.removeItem text index).1 := by
  have reached := engine.removeItem_removal text index
  simp only [removal?]
  generalize engine.removeItem text index = result at reached ⊢
  cases reached with
  | refused rejection =>
      refine Or.inl ⟨?_, .refl engine⟩
      cases engine.locate text <;> rfl
  | least found message rejection =>
      refine Or.inl ⟨?_, .quiet rfl rfl rfl rfl rfl rfl (List.prefix_refl _)⟩
      rw [found]
  | @removed path head template place found inRange =>
      refine Or.inr ⟨path.text, engine.withoutItem path index, ?_, ?_, refreshed_works _ _⟩
      · rw [found]
      · exact ⟨rfl, rfl, rfl, rfl, rfl, rfl, rfl, rfl⟩

/-! ### Emptying -/

theorem keys_resetSlots (next : Nat) (slots : Keyed OptionsSlot) :
    Keyed.keys (Store.resetSlots next slots).1 = Keyed.keys slots := by
  induction slots generalizing next with
  | nil => rfl
  | cons entry rest ih => exact congrArg (entry.1 :: ·) (ih (next + 1))

private theorem le_resetSlots (next : Nat) (slots : Keyed OptionsSlot) :
    next ≤ (Store.resetSlots next slots).2 := by
  induction slots generalizing next with
  | nil => exact Nat.le_refl next
  | cons entry rest ih => exact Nat.le_trans (Nat.le_succ next) (ih (next + 1))

private theorem find?_resetSlots {next : Nat} {slots : Keyed OptionsSlot} {key : String}
    {found : OptionsSlot} (isThere : Keyed.find? key (Store.resetSlots next slots).1 = some found) :
    Blank next (Store.resetSlots next slots).2 found := by
  induction slots generalizing next with
  | nil => cases isThere
  | cons entry rest ih =>
      obtain ⟨first, slot⟩ := entry
      have later := le_resetSlots (next + 1) rest
      by_cases same : first = key
      · simp only [Store.resetSlots, Keyed.find?, if_pos same, Option.some.injEq] at isThere
        exact ⟨next, isThere.symm, Or.inr ⟨Nat.le_refl next, later⟩⟩
      · simp only [Store.resetSlots, Keyed.find?, if_neg same] at isThere
        obtain ⟨generation, isBlank, range⟩ := ih isThere
        refine ⟨generation, isBlank, ?_⟩
        rcases range with zero | ⟨atLeast, below⟩
        · exact Or.inl zero
        · exact Or.inr ⟨Nat.le_trans (Nat.le_succ next) atLeast, below⟩

theorem Empties.tidy {before after : Engine} (empties : before.Empties after)
    (tidy : before.store.Tidy) : after.store.Tidy := by
  constructor
  · rw [empties.slots, Keyed.Distinct, keys_resetSlots]
    exact tidy.slots
  · rw [empties.flows]
    exact Keyed.distinct_nil

theorem Empties.later {before after : Engine} (empties : before.Empties after) :
    before.next ≤ after.next := by
  rw [empties.next]
  exact le_resetSlots _ _

theorem Empties.slotAt? {before after : Engine} (empties : before.Empties after)
    {target : FetchTarget} {found : OptionsSlot}
    (isThere : after.store.slotAt? target = some found) : Blank before.next after.next found := by
  cases target with
  | field path =>
      have here : Keyed.find? path after.store.slots = some found := isThere
      rw [empties.slots] at here
      rw [empties.next]
      exact find?_resetSlots here
  | flowStep path step =>
      simp only [Store.slotAt?, Store.flow?, empties.flows, Keyed.find?] at isThere
      cases isThere

def emptied (engine : Engine) : Engine :=
  { engine with
    store := (engine.store.reset engine.next).1
    next := (engine.store.reset engine.next).2
    navigator := engine.navigator.reset
    pending := []
    status := .ready }

theorem reset_eq (engine : Engine) :
    engine.reset = (engine.emptied.refreshDerived none).emitChange := rfl

theorem emptied_empties (engine : Engine) : engine.Empties engine.emptied :=
  ⟨rfl, rfl, rfl, rfl, rfl, rfl, rfl, List.prefix_refl _⟩

theorem reset_works (engine : Engine) : engine.emptied.Works engine.reset := by
  rw [reset_eq]
  exact refreshed_works _ _

private theorem status_works (engine : Engine) (status : Status) :
    engine.Works { engine with status } :=
  .quiet rfl rfl rfl rfl rfl rfl (List.prefix_refl _)

/-- A submission leaves slots and tickets alone, or it ends in a reset. -/
theorem submit_cases (engine : Engine) (handler : Json → Except String Unit) :
    engine.Works (engine.submit handler).engine ∨
      ∃ middle, engine.Empties middle ∧ middle.Works (engine.submit handler).engine := by
  have validated := validateAll_works engine
  unfold submit
  dsimp only
  split
  · exact Or.inl (validated.trans (.quiet rfl rfl rfl rfl rfl rfl (List.prefix_refl _)))
  · unfold finishSubmitting conclude
    cases handler engine.validateAll.startSubmitting.values with
    | error cause =>
        exact Or.inl (validated.trans (.quiet rfl rfl rfl rfl rfl rfl (List.prefix_append _ _)))
    | ok _ =>
        let answered : Engine :=
          { engine.validateAll.startSubmitting with
            store := { engine.validateAll.startSubmitting.store with submitting := false } }
        refine Or.inr ⟨answered.emptied,
          { emptied_empties answered with notices := validated.notices }, ?_⟩
        exact ((reset_works answered).trans (status_works answered.reset _)).trans (emit_works _ _)

theorem perform_performed (engine : Engine) (operation : HostOperation) :
    engine.Performed operation (engine.perform operation).1 := by
  cases operation with
  | setValue text value => exact .worked rfl (setValue_works engine text value)
  | blur text => exact .worked rfl (blur_works engine text)
  | validateField text => exact .worked rfl (validateField_works engine text)
  | validateAll => exact .worked rfl (validateAll_works engine)
  | validateStep => exact .worked rfl (validateStep_works engine)
  | addItem text => exact .worked rfl (addItem_works engine text)
  | removeItem text index =>
      rcases removeItem_cases engine text index with ⟨none, works⟩ | ⟨_, _, some, removes, works⟩
      · exact .worked none works
      · exact .removed some removes works
  | selectFlowStep text id value => exact .worked rfl (selectFlowStep_works engine text id value)
  | refreshOptions text => exact .worked rfl (refreshOptions_works engine text)
  | nextStep => exact .worked rfl (nextStep_works engine)
  | previousStep => exact .worked rfl (move_works engine _ _)
  | toggleDropdown key =>
      exact .worked rfl (.quiet rfl rfl rfl rfl rfl rfl (List.prefix_refl _))
  | closeDropdowns => exact .worked rfl (.quiet rfl rfl rfl rfl rfl rfl (List.prefix_refl _))
  | togglePassword key =>
      exact .worked rfl (.quiet rfl rfl rfl rfl rfl rfl (List.prefix_refl _))
  | reset => exact .emptied rfl (emptied_empties engine) (reset_works engine)
  | submit handler =>
      rcases submit_cases engine handler with works | ⟨middle, empties, works⟩
      · exact .worked rfl works
      · exact .emptied rfl empties works

namespace Performed

variable {before after : Engine} {operation : HostOperation}

theorem tidy (performed : before.Performed operation after) (tidy : before.store.Tidy) :
    after.store.Tidy := by
  cases performed with
  | worked _ works => exact works.tidy tidy
  | removed _ removes works => exact works.tidy removes.tidy
  | emptied _ empties works => exact works.tidy (empties.tidy tidy)

theorem form (performed : before.Performed operation after) : after.form = before.form := by
  cases performed with
  | worked _ works => exact works.form
  | removed _ removes works => exact works.form.trans removes.form
  | emptied _ empties works => exact works.form.trans empties.form

theorem options (performed : before.Performed operation after) :
    after.options = before.options := by
  cases performed with
  | worked _ works => exact works.options
  | removed _ removes works => exact works.options.trans removes.options
  | emptied _ empties works => exact works.options.trans empties.options

theorem initial (performed : before.Performed operation after) :
    after.store.initial = before.store.initial := by
  cases performed with
  | worked _ works => exact works.initial
  | removed _ removes works => exact works.initial.trans removes.initial
  | emptied _ empties works => exact works.initial.trans empties.initial

theorem notices (performed : before.Performed operation after) :
    before.notices <+: after.notices := by
  cases performed with
  | worked _ works => exact works.notices
  | removed _ removes works => exact removes.notices ▸ works.notices
  | emptied _ empties works => exact empties.notices.trans works.notices

end Performed

end Engine

end DeclarativeForm
