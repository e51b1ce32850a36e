import DeclarativeForm.Proofs.Keyed
import DeclarativeForm.Proofs.Sync.Binding

/-!
Engines that differ in nothing but what was fetched. Their slots are requested for equal arguments
under the same keys, and their flows have the same values in the same steps; the queue, the
generations, the events and the notices may differ. What an engine does on its own account keeps
engines alike, because the outcome of a request tells whether arguments have changed without
regard to what was fetched.
-/

set_option autoImplicit false

namespace DeclarativeForm

structure OptionsSlot.Alike (left right : OptionsSlot) : Prop where
  requested : (left.requestedFor == right.requestedFor) = true
  left : left.Sound
  right : right.Sound

def FlowState.Alike (left right : FlowState) : Prop :=
  Keyed.Related (fun one two : FlowStepState => one.value = two.value) left.steps right.steps

inductive Store.Alike (left : Store) : Store → Prop
  | intro (slots : Keyed OptionsSlot) (flows : Keyed FlowState)
      (slotsAlike : Keyed.Related OptionsSlot.Alike left.slots slots)
      (flowsAlike : Keyed.Related FlowState.Alike left.flows flows) :
      Alike left { left with slots, flows }

inductive Engine.Alike (left : Engine) : Engine → Prop
  | intro (store : Store) (pending : List Ticket) (next : Nat) (events : List Event)
      (notices : List Notice) (stores : left.store.Alike store) :
      Alike left { left with store, pending, next, events, notices }

/-! ### Slots -/

theorem OptionsSlot.alike_empty : OptionsSlot.empty.Alike .empty :=
  ⟨rfl, sound_ofGeneration 0, sound_ofGeneration 0⟩

theorem OptionsSlot.alike_ofGeneration (first second : Nat) :
    (ofGeneration first).Alike (ofGeneration second) :=
  ⟨rfl, sound_ofGeneration first, sound_ofGeneration second⟩

theorem OptionsSlot.Alike.request {left right : OptionsSlot} (alike : left.Alike right)
    (first second : Nat) (target : FetchTarget) (source : OptionsSource)
    (args : Option (List Json)) (force : Bool) :
    (left.request first target source args force).1.Alike
      (right.request second target source args force).1 where
  requested :=
    BEq.trans (left.request_requestedFor first target source args force)
      (BEq.symm (right.request_requestedFor second target source args force))
  left := left.request_sound first target source args force alike.left
  right := right.request_sound second target source args force alike.right

private theorem isSome_of_beq {first second : Option (List Json)}
    (equal : (first == second) = true) : first.isSome = second.isSome := by
  cases first <;> cases second <;> first | rfl | cases equal

private theorem bne_of_beq {first second : Option (List Json)} (equal : (first == second) = true)
    (other : Option (List Json)) : (first != other) = (second != other) := by
  have same : (first == other) = (second == other) := by
    apply Bool.eq_iff_iff.mpr
    constructor
    · intro known
      exact BEq.trans (BEq.symm equal) known
    · intro known
      exact BEq.trans equal known
  simp only [bne, same]

/-! ### Flow states -/

namespace FlowState

theorem Alike.refl (state : FlowState) : state.Alike state := by
  have same (step : FlowStepState) : step.value = step.value := rfl
  exact Keyed.Related.refl same state.steps

variable {left right : FlowState}

theorem Alike.step? (alike : left.Alike right) (id : String) :
    Option.Rel (fun one two : FlowStepState => one.value = two.value) (left.step? id)
      (right.step? id) := Keyed.Related.find? alike id

theorem Alike.value (alike : left.Alike right) (id : String) : left.value id = right.value id := by
  have same := alike.step? id
  simp only [FlowState.value]
  generalize left.step? id = one at same
  generalize right.step? id = two at same
  cases same with
  | none => rfl
  | some equal => exact equal

theorem Alike.modifyStep (alike : left.Alike right) (id : String)
    {first second : FlowStepState → FlowStepState}
    (same : ∀ one two, one.value = two.value → (first one).value = (second two).value) :
    (left.modifyStep id first).Alike (right.modifyStep id second) := by
  have steps := alike.step? id
  simp only [FlowState.modifyStep]
  generalize left.step? id = one at steps
  generalize right.step? id = two at steps
  cases steps with
  | none => exact alike
  | some equal => exact Keyed.Related.put alike id (same _ _ equal)

end FlowState

namespace FlowProgress

variable {left right : FlowProgress}

theorem request_alike (alike : left.state.Alike right.state) (path : String) (step : FlowStep)
    (args : List Json) :
    (left.request path step args).state.Alike (right.request path step args).state := by
  have steps := alike.step? step.id
  simp only [FlowProgress.request]
  generalize left.state.step? step.id = one at steps
  generalize right.state.step? step.id = two at steps
  cases steps with
  | none => exact alike
  | some equal => exact Keyed.Related.put alike step.id equal

theorem clear_alike (alike : left.state.Alike right.state) (id : String) :
    (left.clear id).state.Alike (right.clear id).state :=
  alike.modifyStep id fun _ _ _ => rfl

theorem foldl_alike {α : Type} {step : FlowProgress → α → FlowProgress}
    (keeps : ∀ (one two : FlowProgress) (item : α), one.state.Alike two.state →
      (step one item).state.Alike (step two item).state)
    (items : List α) (alike : left.state.Alike right.state) :
    (items.foldl step left).state.Alike (items.foldl step right).state := by
  induction items generalizing left right with
  | nil => exact alike
  | cons item rest ih => exact ih (keeps left right item alike)

end FlowProgress

namespace Flow

theorem start_alike (flow : Flow) (path : String) (scope : Scope) (first second : Nat) :
    (flow.start path scope first).state.Alike (flow.start path scope second).state := by
  unfold Flow.start
  split
  · exact .refl _
  · dsimp only
    split
    · refine FlowProgress.request_alike ?_ _ _ _
      exact .refl _
    · exact .refl _

theorem choose_alike (flow : Flow) (path : String) {left right : FlowState}
    (alike : left.Alike right) (index : Nat) (id value : String) (scope : Scope)
    (first second : Nat) :
    (flow.choose path left index id value scope first).state.Alike
      (flow.choose path right index id value scope second).state := by
  have chosen : (left.modifyStep id fun step => { step with value }).Alike
      (right.modifyStep id fun step => { step with value }) := alike.modifyStep id fun _ _ _ => rfl
  have emptied := @FlowProgress.foldl_alike ⟨_, [], first⟩ ⟨_, [], second⟩ _ _
    (fun _ _ (step : FlowStep) same => FlowProgress.clear_alike same step.id)
    (flow.steps.drop (index + 1)) chosen
  simp only [Flow.choose]
  split
  · exact emptied
  · refine FlowProgress.foldl_alike ?_ _ emptied
    intro one two step same
    exact FlowProgress.request_alike same path step _

theorem isStepEnabled_alike (flow : Flow) {left right : FlowState} (alike : left.Alike right)
    (index : Nat) : flow.isStepEnabled left index = flow.isStepEnabled right index := by
  cases index with
  | zero => rfl
  | succ before =>
      simp only [Flow.isStepEnabled]
      cases flow.steps[before]? with
      | none => rfl
      | some previous => simp only [alike.value]

theorem missingRequired_alike (flow : Flow) {left right : Option FlowState}
    (alike : Option.Rel FlowState.Alike left right) :
    flow.missingRequired left = flow.missingRequired right := by
  cases alike with
  | none => rfl
  | some same => simp only [Flow.missingRequired, same.value]

end Flow

/-! ### Stores -/

namespace Store.Alike

variable {left right : Store}

theorem values (alike : left.Alike right) : right.values = left.values := by
  cases alike
  rfl

theorem slotOrEmpty (alike : left.Alike right) (key : String) :
    (left.slotOrEmpty key).Alike (right.slotOrEmpty key) := by
  cases alike with
  | intro slots flows slotsAlike flowsAlike =>
      have found := slotsAlike.find? key
      simp only [Store.slotOrEmpty, Store.slot?]
      generalize Keyed.find? key left.slots = one at found
      generalize Keyed.find? key slots = two at found
      cases found with
      | none => exact OptionsSlot.alike_empty
      | some same => exact same

theorem flow? (alike : left.Alike right) (key : String) :
    Option.Rel FlowState.Alike (left.flow? key) (right.flow? key) := by
  cases alike with
  | intro slots flows slotsAlike flowsAlike => exact flowsAlike.find? key

theorem putSlot (alike : left.Alike right) (key : String) {one two : OptionsSlot}
    (same : one.Alike two) : (left.putSlot key one).Alike (right.putSlot key two) := by
  cases alike with
  | intro slots flows slotsAlike flowsAlike => exact .intro _ _ (slotsAlike.put key same) flowsAlike

theorem putFlow (alike : left.Alike right) (key : String) {one two : FlowState}
    (same : one.Alike two) : (left.putFlow key one).Alike (right.putFlow key two) := by
  cases alike with
  | intro slots flows slotsAlike flowsAlike => exact .intro _ _ slotsAlike (flowsAlike.put key same)

theorem setValue (alike : left.Alike right) (path : FieldPath) (value : Json) :
    (left.setValue path value).Alike (right.setValue path value) := by
  cases alike with
  | intro slots flows slotsAlike flowsAlike => exact .intro _ _ slotsAlike flowsAlike

theorem removeValue (alike : left.Alike right) (path : FieldPath) :
    (left.removeValue path).Alike (right.removeValue path) := by
  cases alike with
  | intro slots flows slotsAlike flowsAlike => exact .intro _ _ slotsAlike flowsAlike

end Store.Alike

/-! ### Passes -/

namespace Engine

variable {left right : Engine}

namespace Alike

theorem store (alike : left.Alike right) : left.store.Alike right.store := by
  cases alike with
  | intro store pending next events notices stores => exact stores

theorem values (alike : left.Alike right) : right.values = left.values := alike.store.values

theorem form (alike : left.Alike right) : right.form = left.form := by
  cases alike
  rfl

theorem options (alike : left.Alike right) : right.options = left.options := by
  cases alike
  rfl

theorem withStore (alike : left.Alike right) {one two : Store} (stores : one.Alike two) :
    Alike { left with store := one } { right with store := two } := by
  cases alike with
  | intro store pending next events notices => exact .intro two pending next events notices stores

theorem withPending (alike : left.Alike right) {one two : Store} (stores : one.Alike two)
    (first second : List Ticket) :
    Alike { left with store := one, pending := first }
      { right with store := two, pending := second } := by
  cases alike with
  | intro store pending next events notices => exact .intro two second next events notices stores

theorem note (alike : left.Alike right) (one two : List Notice) :
    (left.note one).Alike (right.note two) := by
  cases alike with
  | intro store pending next events notices stores =>
      exact .intro store pending next events _ stores

theorem emit (alike : left.Alike right) (one two : Event) :
    (left.emit one).Alike (right.emit two) := by
  cases alike with
  | intro store pending next events notices stores =>
      exact .intro store pending next _ notices stores

theorem requestOptions (alike : left.Alike right) (key : String) (source : OptionsSource)
    (args : Option (List Json)) (force : Bool) :
    (left.requestOptions key source args force).1.Alike
      (right.requestOptions key source args force).1 := by
  cases alike with
  | intro store pending next events notices stores =>
      exact .intro _ _ _ _ _ (stores.putSlot key
        ((stores.slotOrEmpty key).request left.next next (.field key) source args force))

end Alike

theorem askFor_alike (alike : left.Alike right) (touched : Option String)
    (binding : OptionBinding) :
    (left.askFor touched binding).Alike (right.askFor touched binding) :=
  alike.requestOptions _ _ _ _

theorem clears_alike (alike : left.Alike right) (binding : OptionBinding) :
    left.clears binding = right.clears binding := by
  have slots := alike.store.slotOrEmpty binding.key
  simp only [clears, alike.options, isSome_of_beq slots.requested, bne_of_beq slots.requested]

theorem foldl_requestBinding_alike (touched : Option String) (bindings : List OptionBinding)
    (alike : left.Alike right) (clearings : List Clearing) :
    (bindings.foldl (requestBinding touched) (left, clearings)).1.Alike
        (bindings.foldl (requestBinding touched) (right, clearings)).1 ∧
      (bindings.foldl (requestBinding touched) (left, clearings)).2 =
        (bindings.foldl (requestBinding touched) (right, clearings)).2 := by
  induction bindings generalizing left right clearings with
  | nil => exact ⟨alike, rfl⟩
  | cons binding rest ih =>
      have slots := alike.store.slotOrEmpty binding.key
      rw [List.foldl_cons, List.foldl_cons,
        requestBinding_eq touched left clearings binding slots.left,
        requestBinding_eq touched right clearings binding slots.right, clears_alike alike binding]
      exact ih (askFor_alike alike touched binding) _

theorem applyClearing_alike {one two : Store} (alike : one.Alike two) (changed : Bool)
    (clearing : Clearing) :
    (applyClearing (one, changed) clearing).1.Alike (applyClearing (two, changed) clearing).1 ∧
      (applyClearing (one, changed) clearing).2 = (applyClearing (two, changed) clearing).2 := by
  unfold applyClearing
  dsimp only
  cases FieldPath.parse clearing.1 with
  | error fault => exact ⟨alike, rfl⟩
  | ok path =>
      dsimp only
      rw [show two.value? path = one.value? path by simp only [Store.value?, alike.values]]
      split
      · exact ⟨alike, rfl⟩
      · cases clearing.2 with
        | none => exact ⟨alike.removeValue path, rfl⟩
        | some fallback => exact ⟨alike.setValue path fallback, rfl⟩

theorem foldl_applyClearing_alike (clearings : List Clearing) {one two : Store}
    (alike : one.Alike two) (changed : Bool) :
    (clearings.foldl applyClearing (one, changed)).1.Alike
        (clearings.foldl applyClearing (two, changed)).1 ∧
      (clearings.foldl applyClearing (one, changed)).2 =
        (clearings.foldl applyClearing (two, changed)).2 := by
  induction clearings generalizing one two changed with
  | nil => exact ⟨alike, rfl⟩
  | cons clearing rest ih =>
      have applied := applyClearing_alike alike changed clearing
      rw [List.foldl_cons, List.foldl_cons]
      generalize applyClearing (one, changed) clearing = first at applied ⊢
      generalize applyClearing (two, changed) clearing = second at applied ⊢
      obtain ⟨firstStore, firstChanged⟩ := first
      obtain ⟨secondStore, secondChanged⟩ := second
      obtain ⟨stores, rfl⟩ := applied
      exact ih stores firstChanged

theorem syncPass_alike (touched : Option String) (bindings : List OptionBinding)
    (alike : left.Alike right) :
    (syncPass touched left bindings).1.Alike (syncPass touched right bindings).1 ∧
      (syncPass touched left bindings).2 = (syncPass touched right bindings).2 := by
  obtain ⟨asked, same⟩ := foldl_requestBinding_alike touched bindings alike []
  have cleared := foldl_applyClearing_alike
    (bindings.foldl (requestBinding touched) (left, [])).2 asked.store false
  simp only [syncPass, ← same]
  exact ⟨asked.withStore cleared.1, cleared.2⟩

theorem syncPasses_alike (touched : Option String) (fuel passes : Nat) (alike : left.Alike right) :
    (syncPasses touched fuel passes left).Alike (syncPasses touched fuel passes right) := by
  induction fuel generalizing passes left right with
  | zero => exact alike
  | succ fuel ih =>
      have noted := alike.note (optionBindingNotices left.form.fields left.values)
        (optionBindingNotices left.form.fields left.values)
      obtain ⟨passed, same⟩ := syncPass_alike touched
        (optionBindings left.form.fields left.values) noted
      simp only [syncPasses, alike.form, alike.values]
      rw [← same]
      split
      · exact passed
      · split
        · exact passed.note _ _
        · exact ih _ passed

end Engine

end DeclarativeForm
