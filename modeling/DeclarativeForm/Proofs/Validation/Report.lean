import DeclarativeForm.Engine.Edit
import DeclarativeForm.Proofs.Keyed
import Mathlib.Data.List.Nodup

/-!
What a node reports on its own. A leaf and a repeatable report at most one error, under the text of
their path; a flow reports one for its value, and one for each required step without a value, under
the text of the path of that step. If the ids of its steps are distinct, no key is used twice.
-/

set_option autoImplicit false

namespace DeclarativeForm

variable {snapshot : Snapshot} {visit : Visit}

def Snapshot.stepValue (snapshot : Snapshot) (path : FieldPath) (id : String) : String :=
  match snapshot.flows.find? path.text with
  | some state => state.value id
  | none => ""

/-- A visited node on its own reports a message under a key. -/
inductive Snapshot.Reports (snapshot : Snapshot) : Visit → String → String → Prop
  | leaf {field : Leaf} {path : FieldPath} {context : Context} {message : String}
      (fails : field.error? path.text (path.get? snapshot.values) (context.scope snapshot.values)
        snapshot.validators = some message) :
      Reports snapshot ⟨.leaf field, path, context⟩ path.text message
  | count {head : Repeatable} {template : List Node} {path : FieldPath} {context : Context}
      {message : String}
      (violated : head.countError? (itemCount path snapshot.values) = some message) :
      Reports snapshot ⟨.repeatable head template, path, context⟩ path.text message
  | rules {flow : Flow} {path : FieldPath} {context : Context} {rules : RuleSet}
      {message : String} (declared : flow.validation = some rules)
      (fails : rules.error? false (path.get? snapshot.values) (context.scope snapshot.values)
        snapshot.validators = some message) :
      Reports snapshot ⟨.flow flow, path, context⟩ path.text message
  | step {flow : Flow} {path : FieldPath} {context : Context} {step : FlowStep}
      {message : String} (member : step ∈ flow.steps)
      (unmet : step.requiredError? (snapshot.stepValue path step.id) = some message) :
      Reports snapshot ⟨.flow flow, path, context⟩ (path.text ++ "." ++ step.id) message

/-! ### Steps of flows -/

theorem Flow.mem_missingRequired_iff {flow : Flow} {state : Option FlowState}
    {id message : String} : (id, message) ∈ flow.missingRequired state ↔
      ∃ step ∈ flow.steps, step.id = id ∧
        step.requiredError? ((state.map fun state => state.value id).getD "") = some message := by
  constructor
  · intro member
    obtain ⟨step, isStep, failure⟩ := List.mem_filterMap.mp member
    obtain ⟨reported, unmet, same⟩ := Option.map_eq_some_iff.mp failure
    cases same
    refine ⟨step, isStep, rfl, ?_⟩
    cases state <;> exact unmet
  · rintro ⟨step, isStep, rfl, unmet⟩
    refine List.mem_filterMap.mpr ⟨step, isStep, Option.map_eq_some_iff.mpr ⟨message, ?_, rfl⟩⟩
    cases state <;> exact unmet

private theorem Flow.distinct_missingRequired {flow : Flow}
    (distinct : (flow.steps.map FlowStep.id).Nodup) (state : Option FlowState) :
    Keyed.Distinct (flow.missingRequired state) := by
  refine List.pairwise_map.mpr (List.pairwise_filterMap.mpr ?_)
  refine (List.pairwise_map.mp distinct).imp fun different one isOne two isTwo => ?_
  obtain ⟨_, _, rfl⟩ := Option.map_eq_some_iff.mp isOne
  obtain ⟨_, _, rfl⟩ := Option.map_eq_some_iff.mp isTwo
  exact different

/-! ### Errors of nodes -/

namespace Snapshot

private def errorAt (key : String) (found : Option String) : List (String × String) :=
  match found with
  | some message => [(key, message)]
  | none => []

private theorem mem_errorAt {entry : String × String} {key : String} {found : Option String} :
    entry ∈ errorAt key found ↔ ∃ message, found = some message ∧ entry = (key, message) := by
  cases found with
  | none => simp [errorAt]
  | some message => simp [errorAt]

theorem mem_errorsOf_iff {key message : String} :
    (key, message) ∈ snapshot.errorsOf visit ↔ snapshot.Reports visit key message := by
  obtain ⟨node, path, context⟩ := visit
  constructor
  · intro member
    cases node with
    | leaf field =>
        obtain ⟨reported, fails, same⟩ := mem_errorAt.mp member
        cases same
        exact .leaf fails
    | group head inner => cases member
    | repeatable head template =>
        obtain ⟨reported, violated, same⟩ := mem_errorAt.mp member
        cases same
        exact .count violated
    | flow flow =>
        rcases List.mem_append.mp member with ofStep | ofValue
        · obtain ⟨⟨id, reported⟩, isFailure, same⟩ := List.mem_map.mp ofStep
          cases same
          obtain ⟨step, isStep, rfl, unmet⟩ := Flow.mem_missingRequired_iff.mp isFailure
          refine .step isStep ?_
          rw [← unmet, stepValue]
          cases snapshot.flows.find? path.text <;> rfl
        · obtain ⟨reported, fails, same⟩ := mem_errorAt.mp ofValue
          cases same
          rw [flowFindings] at fails
          cases declared : flow.validation with
          | none =>
              rw [declared] at fails
              cases fails
          | some rules =>
              rw [declared] at fails
              exact .rules declared fails
  · intro reports
    cases reports with
    | leaf fails => exact mem_errorAt.mpr ⟨message, fails, rfl⟩
    | count violated => exact mem_errorAt.mpr ⟨message, violated, rfl⟩
    | @rules flow _ _ rules _ declared fails =>
        refine List.mem_append_right _ (mem_errorAt.mpr ⟨message, ?_, rfl⟩)
        rw [flowFindings, declared]
        exact fails
    | @step flow _ _ step _ member unmet =>
        refine List.mem_append_left _ (List.mem_map.mpr ⟨(step.id, message), ?_, rfl⟩)
        refine Flow.mem_missingRequired_iff.mpr ⟨step, member, rfl, ?_⟩
        rw [← unmet, stepValue]
        dsimp only
        cases snapshot.flows.find? path.text <;> rfl

namespace Reports

variable {key message : String}

theorem single (reports : snapshot.Reports visit key message) : visit.node.isGroup = false := by
  cases reports <;> rfl

theorem mem_keysOf (reports : snapshot.Reports visit key message) :
    key ∈ Engine.keysOf visit.path.text visit.node := by
  cases reports with
  | leaf fails => exact List.mem_singleton_self _
  | count violated => exact List.mem_singleton_self _
  | rules declared fails => exact List.mem_cons_self
  | step member unmet => exact List.mem_cons_of_mem _ (List.mem_map.mpr ⟨_, member, rfl⟩)

end Reports

private theorem distinct_errorAt (key : String) (found : Option String) :
    Keyed.Distinct (errorAt key found) := by
  cases found with
  | none => exact Keyed.distinct_nil
  | some message => exact List.nodup_cons.mpr ⟨List.not_mem_nil, List.nodup_nil⟩

private theorem stepKey_injective (key : String) :
    Function.Injective fun id : String => key ++ "." ++ id := by
  intro one two same
  have characters := congrArg String.toList same
  simp only [String.toList_append] at characters
  exact String.toList_inj.mp (List.append_cancel_left characters)

private theorem stepKey_ne (key id : String) : key ++ "." ++ id ≠ key := by
  intro same
  have lengths := congrArg String.length same
  simp only [String.length_append] at lengths
  have dot : ".".length = 1 := rfl
  omega

end Snapshot

def Node.HasDistinctSteps : Node → Prop
  | .flow field => (field.steps.map FlowStep.id).Nodup
  | _ => True

/-- A node whose steps are distinct has at most one error under each key. -/
theorem Snapshot.distinct_errorsOf (distinct : visit.node.HasDistinctSteps) :
    Keyed.Distinct (snapshot.errorsOf visit) := by
  obtain ⟨node, path, context⟩ := visit
  cases node with
  | leaf field => exact distinct_errorAt _ _
  | group head inner => exact Keyed.distinct_nil
  | repeatable head template => exact distinct_errorAt _ _
  | flow flow =>
      have steps := List.Nodup.map (stepKey_injective path.text)
        (Flow.distinct_missingRequired distinct (snapshot.flows.find? path.text))
      rw [Keyed.keys, List.map_map] at steps
      unfold errorsOf flowErrors Keyed.Distinct Keyed.keys
      dsimp only
      rw [List.map_append, List.map_map]
      refine List.nodup_append.mpr ⟨steps, distinct_errorAt _ _, ?_⟩
      intro one isStep two isValue
      obtain ⟨⟨id, message⟩, _, rfl⟩ := List.mem_map.mp isStep
      obtain ⟨entry, isEntry, rfl⟩ := List.mem_map.mp isValue
      obtain ⟨_, _, rfl⟩ := mem_errorAt.mp isEntry
      -- The key of a step is longer than that of its flow, whatever the id is.
      exact stepKey_ne path.text id

end DeclarativeForm
