import DeclarativeForm.Engine.Flow
import DeclarativeForm.Engine.Items

/-!
What the operations on a mounted form can come to. Writing a value, adding and removing items and
choosing a value for a step are refused, or they write something and bring up to date what follows
from the values. The cases of an operation are told once, with everything it writes; what operations
keep is then proved case by case.
-/

set_option autoImplicit false

namespace DeclarativeForm.Engine

/-! ### Values -/

/-- The engine after a value was written and before anything is derived. -/
def withValue (engine : Engine) (path : FieldPath) (located : Located) (value : Json) : Engine :=
  let written := { engine with store := engine.store.setValue path value }
  if written.trigger = .change then written.recordLocated path.text located else written

inductive ValueWrite (engine : Engine) (text : String) (value : Json) :
    Engine × Except FormError Unit → Prop
  | refused (rejection : FormError) : ValueWrite engine text value (engine, .error rejection)
  | written {path : FieldPath} {located : Located}
      (found : engine.locate text = .ok (path, located))
      (complete : missingItem? path engine.values = none) :
      ValueWrite engine text value
        (((engine.withValue path located value).refreshDerived (some path.text)).emitChange,
          .ok ())

theorem setValue_write (engine : Engine) (text : String) (value : Json) :
    engine.ValueWrite text value (engine.setValue text value) := by
  unfold setValue
  cases found : engine.locate text with
  | error rejection => exact .refused rejection
  | ok result =>
      obtain ⟨path, located⟩ := result
      dsimp only
      cases complete : missingItem? path engine.values with
      | some missing => exact .refused _
      | none => exact .written found complete

/-! ### Items -/

def withNewItem (engine : Engine) (path : FieldPath) (template : List Node) : Engine :=
  let items := match engine.store.value? path with
    | some (.array items) => items
    | _ => []
  { engine with
    store := engine.store.setValue path (.array (items ++ [initialValues template])) }

inductive ItemAddition (engine : Engine) (text : String) : Engine × Except FormError Nat → Prop
  | refused (rejection : FormError) : ItemAddition engine text (engine, .error rejection)
  /-- There are as many items as there may be, and the repeatable gets an error. -/
  | most {path : FieldPath} {head : Repeatable} {template : List Node} {place : Context}
      (found : engine.locate text = .ok (path, ⟨.repeatable head template, place⟩))
      (message : String) (rejection : FormError) :
      ItemAddition engine text
        ({ engine with store := engine.store.setError path.text message }, .error rejection)
  | added {path : FieldPath} {head : Repeatable} {template : List Node} {place : Context}
      (found : engine.locate text = .ok (path, ⟨.repeatable head template, place⟩)) :
      ItemAddition engine text
        (((engine.withNewItem path template).refreshDerived (some path.text)).emitChange,
          .ok (itemCount path engine.values))

theorem addItem_addition (engine : Engine) (text : String) :
    engine.ItemAddition text (engine.addItem text) := by
  unfold addItem
  cases found : engine.locate text with
  | error rejection => exact .refused rejection
  | ok result =>
      obtain ⟨path, node, place⟩ := result
      cases node with
      | leaf field => exact .refused _
      | group head fields => exact .refused _
      | flow flow => exact .refused _
      | repeatable head template =>
          dsimp only
          split
          · exact .most found _ _
          · exact .added found

def withoutItem (engine : Engine) (path : FieldPath) (index : Nat) : Engine :=
  { engine with
    store := ((engine.store.removeValue (path.item index)).reindexRemoval path.text
      index).clearError path.text
    pending := engine.pending.filterMap fun ticket => ticket.reindex path.text index }

inductive ItemRemoval (engine : Engine) (text : String) (index : Nat) :
    Engine × Except FormError Unit → Prop
  | refused (rejection : FormError) : ItemRemoval engine text index (engine, .error rejection)
  /-- There are as few items as there may be, and the repeatable gets an error. -/
  | least {path : FieldPath} {head : Repeatable} {template : List Node} {place : Context}
      (found : engine.locate text = .ok (path, ⟨.repeatable head template, place⟩))
      (message : String) (rejection : FormError) :
      ItemRemoval engine text index
        ({ engine with store := engine.store.setError path.text message }, .error rejection)
  | removed {path : FieldPath} {head : Repeatable} {template : List Node} {place : Context}
      (found : engine.locate text = .ok (path, ⟨.repeatable head template, place⟩))
      (inRange : index < itemCount path engine.values) :
      ItemRemoval engine text index
        (((engine.withoutItem path index).refreshDerived (some path.text)).emitChange, .ok ())

theorem removeItem_removal (engine : Engine) (text : String) (index : Nat) :
    engine.ItemRemoval text index (engine.removeItem text index) := by
  unfold removeItem
  cases found : engine.locate text with
  | error rejection => exact .refused rejection
  | ok result =>
      obtain ⟨path, node, place⟩ := result
      cases node with
      | leaf field => exact .refused _
      | group head fields => exact .refused _
      | flow flow => exact .refused _
      | repeatable head template =>
          dsimp only
          by_cases absent : itemCount path engine.values ≤ index
          · rw [if_pos absent]
            exact .refused _
          · rw [if_neg absent]
            cases head.minItems.filter fun least => itemCount path engine.values ≤ least with
            | some least => exact .least found _ _
            | none => exact .removed found (Nat.lt_of_not_le absent)

theorem removeItem_of_absent {engine : Engine} {text : String} {path : FieldPath} {index : Nat}
    {head : Repeatable} {template : List Node} {place : Context}
    (found : engine.locate text = .ok (path, ⟨.repeatable head template, place⟩))
    (absent : itemCount path engine.values ≤ index) :
    engine.removeItem text index = (engine, .error (.indexOutOfRange path.text index)) := by
  simp only [removeItem, found, if_pos absent]

/-! ### Steps of flows -/

theorem syncFlow_flow (engine : Engine) (place : FlowPlace) :
    ((engine.syncFlow place).store.flow? place.path.text).isSome = true := by
  unfold syncFlow
  dsimp only
  split
  · rename_i state present
    rw [present]
    rfl
  · exact Option.isSome_iff_exists.mpr ⟨_, Keyed.find?_put_self _ _ _⟩

def withChoice (engine : Engine) (path : FieldPath) (flow : Flow) (id value : String)
    (progress : FlowProgress) (change : FlowChange) : Engine :=
  { engine with
    store := applyFlowChange (engine.store.putFlow path.text progress.state) path flow id value
      change
    pending := engine.pending ++ change.tickets
    next := progress.next }

inductive StepChoice (engine : Engine) (text id value : String) :
    Engine × Except FormError FlowSelection → Prop
  | refused (rejection : FormError) : StepChoice engine text id value (engine, .error rejection)
  /-- The step is not open, or there is none of the id. -/
  | ignored {path : FieldPath} {flow : Flow} {place : Context} {started : Engine}
      {state : FlowState} (found : engine.locate text = .ok (path, ⟨.flow flow, place⟩))
      (starts : started = engine.syncFlow ⟨path, flow, place⟩)
      (present : started.store.flow? path.text = some state) (selection : FlowSelection)
      (unapplied : ∀ change, selection ≠ .applied change) :
      StepChoice engine text id value
        ({ started with store := started.store.putFlow path.text state }, .ok selection)
  | applied {path : FieldPath} {flow : Flow} {place : Context} {started : Engine}
      {state : FlowState} {index : Nat} {progress : FlowProgress} {change : FlowChange}
      (found : engine.locate text = .ok (path, ⟨.flow flow, place⟩))
      (starts : started = engine.syncFlow ⟨path, flow, place⟩)
      (present : started.store.flow? path.text = some state)
      (isStep : flow.stepIndex id = some index)
      (enabled : flow.isStepEnabled state index = true)
      (chosen : progress = flow.choose path.text state index id value
        (place.scope started.values) started.next)
      (tickets : change.tickets = progress.tickets)
      (output : change.output = if id = flow.outputStepId then some value else none) :
      StepChoice engine text id value
        (((started.withChoice path flow id value progress change).refreshDerived
          (some path.text)).emitChange, .ok (.applied change))

theorem selectFlowStep_choice (engine : Engine) (text id value : String) :
    engine.StepChoice text id value (engine.selectFlowStep text id value) := by
  unfold selectFlowStep
  cases found : engine.locate text with
  | error rejection => exact .refused rejection
  | ok result =>
      obtain ⟨path, node, place⟩ := result
      cases node with
      | leaf field => exact .refused _
      | group head fields => exact .refused _
      | repeatable head template => exact .refused _
      | flow flow =>
          obtain ⟨state, present⟩ :=
            Option.isSome_iff_exists.mp (engine.syncFlow_flow ⟨path, flow, place⟩)
          dsimp only at present ⊢
          generalize starts : engine.syncFlow ⟨path, flow, place⟩ = started at present ⊢
          rw [present]
          dsimp only
          cases spot : flow.stepIndex id with
          | none =>
              simp only [Flow.select, spot]
              exact .ignored found starts.symm present _ fun _ same => nomatch same
          | some index =>
              by_cases enabled : flow.isStepEnabled state index = true
              · simp only [Flow.select, spot, if_pos enabled]
                exact .applied found starts.symm present spot enabled rfl rfl rfl
              · simp only [Flow.select, spot, if_neg enabled]
                exact .ignored found starts.symm present _ fun _ same => nomatch same

end DeclarativeForm.Engine
