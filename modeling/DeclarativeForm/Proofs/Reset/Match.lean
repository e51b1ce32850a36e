import DeclarativeForm.Engine.Fetch
import DeclarativeForm.Proofs.Keyed
import Mathlib.Data.List.Forall2

/-!
Engines that differ in generations only. Slots match when they hold and wait for the same things;
where one engine has no slot, the other may have one that holds nothing. Bringing two such engines
up to date does the same to both: no request looks at a generation, and none can tell an empty slot
from one that is not there.
-/

set_option autoImplicit false

namespace DeclarativeForm

structure OptionsSlot.Matches (left right : OptionsSlot) : Prop where
  options : left.options = right.options
  loading : left.loading = right.loading
  requestedFor : left.requestedFor = right.requestedFor
  loadedFor : left.loadedFor = right.loadedFor

structure Ticket.Matches (left right : Ticket) : Prop where
  target : left.target = right.target
  function : left.function = right.function
  args : left.args = right.args

inductive RequestOutcome.Matches : RequestOutcome → RequestOutcome → Prop
  | issued {left right : Ticket} (same : left.Matches right) : Matches (issued left) (issued right)
  | unchanged : Matches unchanged unchanged
  | cleared : Matches cleared cleared

structure FlowStepState.Matches (left right : FlowStepState) : Prop where
  value : left.value = right.value
  slot : left.slot.Matches right.slot

def FlowState.Matches (left right : FlowState) : Prop :=
  Keyed.Related FlowStepState.Matches left.steps right.steps

abbrev QueuesMatch : List Ticket → List Ticket → Prop := List.Forall₂ Ticket.Matches

/-- Stores without errors that match in everything else. -/
structure Store.Matches (left right : Store) : Prop where
  values : left.values = right.values
  initial : left.initial = right.initial
  errors : left.errors = [] ∧ right.errors = []
  slots : ∀ key, (left.slotOrEmpty key).Matches (right.slotOrEmpty key)
  flows : Keyed.Related FlowState.Matches left.flows right.flows
  openDropdown : left.openDropdown = right.openDropdown
  shownPasswords : left.shownPasswords = right.shownPasswords
  submitting : left.submitting = right.submitting

structure Engine.Matches (left right : Engine) : Prop where
  form : left.form = right.form
  options : left.options = right.options
  store : left.store.Matches right.store
  pending : QueuesMatch left.pending right.pending
  current : left.navigator.current = right.navigator.current
  status : left.status = right.status

/-! ### Slots -/

theorem OptionsSlot.matches_ofGeneration (first second : Nat) :
    (ofGeneration first).Matches (ofGeneration second) := ⟨rfl, rfl, rfl, rfl⟩

theorem OptionsSlot.Matches.request {left right : OptionsSlot} (same : left.Matches right)
    (first second : Nat) (target : FetchTarget) (source : OptionsSource)
    (args : Option (List Json)) (force : Bool) :
    (left.request first target source args force).1.Matches
        (right.request second target source args force).1 ∧
      (left.request first target source args force).2.Matches
        (right.request second target source args force).2 := by
  obtain ⟨options, loading, requestedFor, loadedFor⟩ := same
  cases args with
  | none =>
      have holds : left.holdsState = right.holdsState := by
        simp only [OptionsSlot.holdsState, options, loading, requestedFor]
      simp only [OptionsSlot.request, holds]
      refine ⟨matches_ofGeneration first second, ?_⟩
      split
      · exact .cleared
      · exact .unchanged
  | some wanted =>
      simp only [OptionsSlot.request, options, loading, requestedFor, loadedFor]
      split
      · exact ⟨⟨options, loading, requestedFor, loadedFor⟩, .unchanged⟩
      · exact ⟨⟨rfl, rfl, rfl, rfl⟩, .issued ⟨rfl, rfl, rfl⟩⟩

namespace RequestOutcome.Matches

variable {left right : RequestOutcome}

theorem tickets (same : left.Matches right) :
    QueuesMatch left.ticket?.toList right.ticket?.toList := by
  cases same with
  | issued same => exact .cons same .nil
  | unchanged => exact .nil
  | cleared => exact .nil

theorem dependencyChanged (same : left.Matches right) (previous args : Option (List Json)) :
    Engine.dependencyChanged previous args left = Engine.dependencyChanged previous args right := by
  cases same <;> rfl

end RequestOutcome.Matches

theorem QueuesMatch.append {one two three four : List Ticket} (first : QueuesMatch one two)
    (second : QueuesMatch three four) : QueuesMatch (one ++ three) (two ++ four) :=
  List.rel_append first second

/-! ### Flows -/

theorem FlowState.matches_self (state : FlowState) : state.Matches state := by
  have same (step : FlowStepState) : step.Matches step := ⟨rfl, rfl, rfl, rfl, rfl⟩
  exact Keyed.Related.refl same state.steps

theorem FlowProgress.request_matches {left right : FlowProgress}
    (same : left.state.Matches right.state ∧ QueuesMatch left.tickets right.tickets)
    (path : String) (step : FlowStep) (args : List Json) :
    (left.request path step args).state.Matches (right.request path step args).state ∧
      QueuesMatch (left.request path step args).tickets (right.request path step args).tickets := by
  obtain ⟨states, tickets⟩ := same
  have steps : Option.Rel FlowStepState.Matches (left.state.step? step.id)
      (right.state.step? step.id) := Keyed.Related.find? states step.id
  simp only [FlowProgress.request]
  generalize left.state.step? step.id = one at steps
  generalize right.state.step? step.id = two at steps
  cases steps with
  | none => exact ⟨states, tickets⟩
  | some equal =>
      have requested := equal.slot.request left.next right.next (.flowStep path step.id)
        step.optionsSource (some args) true
      constructor
      · exact Keyed.Related.put states step.id ⟨equal.value, requested.1⟩
      · exact tickets.append requested.2.tickets

/-- Flows start in the same way whatever generations are used. -/
theorem Flow.start_matches (flow : Flow) (path : String) (scope : Scope) (first second : Nat) :
    (flow.start path scope first).state.Matches (flow.start path scope second).state ∧
      QueuesMatch (flow.start path scope first).tickets
        (flow.start path scope second).tickets := by
  unfold Flow.start
  split
  · exact ⟨FlowState.matches_self _, .nil⟩
  · dsimp only
    split
    · apply FlowProgress.request_matches
      exact ⟨FlowState.matches_self _, .nil⟩
    · exact ⟨FlowState.matches_self _, .nil⟩

/-! ### Stores -/

namespace Store.Matches

variable {left right : Store}

theorem putSlot (same : left.Matches right) (key : String) {one two : OptionsSlot}
    (slots : one.Matches two) : (left.putSlot key one).Matches (right.putSlot key two) where
  values := same.values
  initial := same.initial
  errors := same.errors
  slots other := by
    simp only [slotOrEmpty, slot?, Store.putSlot, Keyed.find?_put]
    by_cases here : other = key
    · rw [if_pos here, if_pos here]
      exact slots
    · rw [if_neg here, if_neg here]
      exact same.slots other
  flows := same.flows
  openDropdown := same.openDropdown
  shownPasswords := same.shownPasswords
  submitting := same.submitting

theorem putFlow (same : left.Matches right) (key : String) {one two : FlowState}
    (states : one.Matches two) : (left.putFlow key one).Matches (right.putFlow key two) :=
  { same with flows := same.flows.put key states }

theorem setValue (same : left.Matches right) (path : FieldPath) (value : Json) :
    (left.setValue path value).Matches (right.setValue path value) :=
  { same with
    values := congrArg (path.set · value) same.values
    errors := by
      simp only [Store.setValue, same.errors.1, same.errors.2]
      exact ⟨rfl, rfl⟩ }

theorem removeValue (same : left.Matches right) (path : FieldPath) :
    (left.removeValue path).Matches (right.removeValue path) :=
  { same with values := congrArg path.without same.values }

theorem applyClearing (same : left.Matches right) (changed : Bool) (clearing : Engine.Clearing) :
    (Engine.applyClearing (left, changed) clearing).1.Matches
        (Engine.applyClearing (right, changed) clearing).1 ∧
      (Engine.applyClearing (left, changed) clearing).2 =
        (Engine.applyClearing (right, changed) clearing).2 := by
  simp only [Engine.applyClearing]
  cases FieldPath.parse clearing.1 with
  | error fault => exact ⟨same, rfl⟩
  | ok path =>
      have found : left.value? path = right.value? path := congrArg path.get? same.values
      dsimp only
      rw [found]
      split
      · exact ⟨same, rfl⟩
      · cases clearing.2 with
        | none => exact ⟨same.removeValue path, rfl⟩
        | some fallback => exact ⟨same.setValue path fallback, rfl⟩

theorem foldl_applyClearing (same : left.Matches right) (clearings : List Engine.Clearing)
    (changed : Bool) :
    (clearings.foldl Engine.applyClearing (left, changed)).1.Matches
        (clearings.foldl Engine.applyClearing (right, changed)).1 ∧
      (clearings.foldl Engine.applyClearing (left, changed)).2 =
        (clearings.foldl Engine.applyClearing (right, changed)).2 := by
  induction clearings generalizing left right changed with
  | nil => exact ⟨same, rfl⟩
  | cons clearing rest ih =>
      have applied := same.applyClearing changed clearing
      rw [List.foldl_cons, List.foldl_cons]
      generalize Engine.applyClearing (left, changed) clearing = one at applied ⊢
      generalize Engine.applyClearing (right, changed) clearing = two at applied ⊢
      obtain ⟨oneStore, oneChanged⟩ := one
      obtain ⟨twoStore, twoChanged⟩ := two
      obtain ⟨stores, rfl⟩ := applied
      exact ih stores oneChanged

end Store.Matches

/-! ### Bringing engines up to date -/

namespace Engine.Matches

variable {left right : Engine}

theorem values (same : left.Matches right) : left.values = right.values := same.store.values

theorem note (same : left.Matches right) (one two : List Notice) :
    (left.note one).Matches (right.note two) := { same with }

theorem emitChange (same : left.Matches right) : left.emitChange.Matches right := { same with }

theorem requestOptions (same : left.Matches right) (key : String) (source : OptionsSource)
    (args : Option (List Json)) (force : Bool) :
    (left.requestOptions key source args force).1.Matches
        (right.requestOptions key source args force).1 ∧
      (left.requestOptions key source args force).2.Matches
        (right.requestOptions key source args force).2 := by
  have requested := (same.store.slots key).request left.next right.next (.field key) source args
    force
  refine ⟨{ same with store := ?_, pending := ?_ }, requested.2⟩
  · exact same.store.putSlot key requested.1
  · exact same.pending.append requested.2.tickets

theorem requestBinding (same : left.Matches right) (touched : Option String)
    (clearings : List Clearing) (binding : OptionBinding) :
    (Engine.requestBinding touched (left, clearings) binding).1.Matches
        (Engine.requestBinding touched (right, clearings) binding).1 ∧
      (Engine.requestBinding touched (left, clearings) binding).2 =
        (Engine.requestBinding touched (right, clearings) binding).2 := by
  obtain ⟨engines, outcomes⟩ := same.requestOptions binding.key binding.source binding.args
    (isForced touched binding)
  simp only [Engine.requestBinding, (same.store.slots binding.key).requestedFor,
    outcomes.dependencyChanged, engines.options]
  split
  · exact ⟨engines, rfl⟩
  · exact ⟨engines, rfl⟩

theorem foldl_requestBinding (same : left.Matches right) (touched : Option String)
    (bindings : List OptionBinding) (clearings : List Clearing) :
    (bindings.foldl (Engine.requestBinding touched) (left, clearings)).1.Matches
        (bindings.foldl (Engine.requestBinding touched) (right, clearings)).1 ∧
      (bindings.foldl (Engine.requestBinding touched) (left, clearings)).2 =
        (bindings.foldl (Engine.requestBinding touched) (right, clearings)).2 := by
  induction bindings generalizing left right clearings with
  | nil => exact ⟨same, rfl⟩
  | cons binding rest ih =>
      have step := same.requestBinding touched clearings binding
      rw [List.foldl_cons, List.foldl_cons]
      generalize Engine.requestBinding touched (left, clearings) binding = one at step ⊢
      generalize Engine.requestBinding touched (right, clearings) binding = two at step ⊢
      obtain ⟨oneEngine, oneClearings⟩ := one
      obtain ⟨twoEngine, twoClearings⟩ := two
      obtain ⟨engines, rfl⟩ := step
      exact ih engines oneClearings

theorem syncPass (same : left.Matches right) (touched : Option String)
    (bindings : List OptionBinding) :
    (Engine.syncPass touched left bindings).1.Matches (Engine.syncPass touched right bindings).1 ∧
      (Engine.syncPass touched left bindings).2 = (Engine.syncPass touched right bindings).2 := by
  obtain ⟨engines, clearings⟩ := same.foldl_requestBinding touched bindings []
  simp only [Engine.syncPass, clearings]
  obtain ⟨stores, changed⟩ := engines.store.foldl_applyClearing
    (bindings.foldl (Engine.requestBinding touched) (right, [])).2 false
  exact ⟨{ engines with store := stores }, changed⟩

theorem syncPasses (same : left.Matches right) (touched : Option String) (fuel passes : Nat) :
    (Engine.syncPasses touched fuel passes left).Matches
      (Engine.syncPasses touched fuel passes right) := by
  induction fuel generalizing left right passes with
  | zero => exact same
  | succ fuel ih =>
      simp only [Engine.syncPasses, same.form, same.values]
      generalize optionBindings right.form.fields right.values = bindings
      generalize optionBindingNotices right.form.fields right.values = notices
      obtain ⟨engines, changed⟩ := (same.note notices notices).syncPass touched bindings
      rw [changed]
      split
      · exact engines
      · split
        · exact engines.note _ _
        · exact ih engines (passes + 1)

theorem syncFlow (same : left.Matches right) (place : FlowPlace) :
    (left.syncFlow place).Matches (right.syncFlow place) := by
  have states : Option.Rel FlowState.Matches (left.store.flow? place.path.text)
      (right.store.flow? place.path.text) := same.store.flows.find? _
  simp only [Engine.syncFlow, same.values]
  generalize left.store.flow? place.path.text = one at states
  generalize right.store.flow? place.path.text = two at states
  cases states with
  | some _ => exact same
  | none =>
      have started := place.flow.start_matches place.path.text
        (place.context.scope right.values) left.next right.next
      refine { same with store := ?_, pending := ?_ }
      · exact same.store.putFlow _ started.1
      · exact same.pending.append started.2

theorem syncFlows (same : left.Matches right) : left.syncFlows.Matches right.syncFlows := by
  simp only [Engine.syncFlows, same.form, same.values]
  generalize flowPlaces right.form.fields right.values = places
  induction places generalizing left right with
  | nil => exact same
  | cons place rest ih => exact ih (same.syncFlow place)

theorem refreshDerived (same : left.Matches right) (touched : Option String) :
    (left.refreshDerived touched).Matches (right.refreshDerived touched) := by
  have started := same.syncFlows
  have bound : left.syncFlows.passBound = right.syncFlows.passBound := by
    simp only [passBound, started.form, started.values]
  simp only [Engine.refreshDerived, Engine.syncOptions, bound]
  exact started.syncPasses touched _ 0

end Engine.Matches

end DeclarativeForm
