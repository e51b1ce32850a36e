import DeclarativeForm.Proofs.Options.Slot

/-!
Asking for the options of a binding. Whether the field of the binding is to be cleared depends on
the arguments of the request before and on those of this one, and on nothing that was fetched.
Bringing fields up to date keeps whatever every start of a flow, every request and every pass keeps.
-/

set_option autoImplicit false

namespace DeclarativeForm.Engine

/-- Whether the field of a binding is to be cleared: its options were asked for with other
arguments before. -/
def clears (engine : Engine) (binding : OptionBinding) : Bool :=
  (engine.store.slotOrEmpty binding.key).requestedFor.isSome
    && (engine.store.slotOrEmpty binding.key).requestedFor != binding.args
    && engine.options.resetDependents && !binding.dependencies.isEmpty

def askFor (engine : Engine) (touched : Option String) (binding : OptionBinding) : Engine :=
  (engine.requestOptions binding.key binding.source binding.args (isForced touched binding)).1

theorem requestBinding_engine (touched : Option String) (state : Engine × List Clearing)
    (binding : OptionBinding) :
    (requestBinding touched state binding).1 = state.1.askFor touched binding := by
  unfold requestBinding
  dsimp only
  split <;> rfl

theorem requestBinding_eq (touched : Option String) (engine : Engine) (clearings : List Clearing)
    (binding : OptionBinding) (sound : (engine.store.slotOrEmpty binding.key).Sound) :
    requestBinding touched (engine, clearings) binding =
      (engine.askFor touched binding,
        if engine.clears binding then clearings ++ [(binding.key, binding.field.clearedValue)]
        else clearings) := by
  have changed := OptionsSlot.dependencyChanged_request (engine.store.slotOrEmpty binding.key)
    engine.next (.field binding.key) binding.source binding.args (isForced touched binding) sound
  have outcome : (engine.requestOptions binding.key binding.source binding.args
      (isForced touched binding)).2 = ((engine.store.slotOrEmpty binding.key).request engine.next
        (.field binding.key) binding.source binding.args (isForced touched binding)).2 := rfl
  have options : (engine.requestOptions binding.key binding.source binding.args
      (isForced touched binding)).1.options = engine.options := rfl
  simp only [requestBinding, outcome, changed, options]
  change (if engine.clears binding = true then _ else _) = _
  by_cases cleared : engine.clears binding = true
  · rw [if_pos cleared, if_pos cleared]
    rfl
  · rw [if_neg cleared, if_neg cleared]
    rfl

/-! ### What is kept -/

theorem syncFlows_keep (property : Engine → Prop) {engine : Engine}
    (sync : ∀ other, ∀ place ∈ flowPlaces engine.form.fields engine.values,
      property other → property (other.syncFlow place))
    (start : property engine) : property engine.syncFlows := by
  unfold syncFlows
  generalize flowPlaces engine.form.fields engine.values = places at sync
  induction places generalizing engine with
  | nil => exact start
  | cons place rest ih =>
      have here := sync engine place List.mem_cons_self start
      exact ih here fun other later member => sync other later (List.mem_cons_of_mem _ member)

/-- Starting flows writes no values and asks for no options of fields. -/
theorem syncFlow_keeps (engine : Engine) (place : FlowPlace) :
    (engine.syncFlow place).values = engine.values ∧
      (engine.syncFlow place).store.slots = engine.store.slots := by
  unfold syncFlow
  dsimp only
  split <;> exact ⟨rfl, rfl⟩

theorem syncFlows_keeps (engine : Engine) :
    engine.syncFlows.values = engine.values ∧
      engine.syncFlows.store.slots = engine.store.slots := by
  refine syncFlows_keep (fun after => after.values = engine.values ∧
    after.store.slots = engine.store.slots) ?_ ⟨rfl, rfl⟩
  rintro other place _ ⟨values, slots⟩
  exact ⟨(other.syncFlow_keeps place).1.trans values, (other.syncFlow_keeps place).2.trans slots⟩

theorem foldl_requestBinding_keep (property : Engine → Prop) {touched : Option String}
    {bindings : List OptionBinding}
    (ask : ∀ engine, ∀ binding ∈ bindings,
      property engine → property (engine.askFor touched binding))
    {state : Engine × List Clearing} (start : property state.1) :
    property (bindings.foldl (requestBinding touched) state).1 := by
  induction bindings generalizing state with
  | nil => exact start
  | cons binding rest ih =>
      refine ih (fun engine later member => ask engine later (List.mem_cons_of_mem _ member)) ?_
      rw [requestBinding_engine]
      exact ask state.1 binding List.mem_cons_self start

theorem syncPasses_keep (property : Engine → Prop) {touched : Option String}
    (note : ∀ engine notices, property engine → property (engine.note notices))
    (pass : ∀ engine, property engine → property
      (syncPass touched engine (optionBindings engine.form.fields engine.values)).1)
    (fuel passes : Nat) {engine : Engine} (start : property engine) :
    property (syncPasses touched fuel passes engine) := by
  induction fuel generalizing passes engine with
  | zero => exact start
  | succ fuel ih =>
      have passed := pass _ (note engine (optionBindingNotices engine.form.fields engine.values)
        start)
      simp only [syncPasses]
      split
      · exact passed
      · split
        · exact note _ _ passed
        · exact ih _ passed

end DeclarativeForm.Engine
