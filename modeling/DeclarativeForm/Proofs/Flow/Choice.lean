import DeclarativeForm.Flow.State
import DeclarativeForm.Proofs.Keyed

/-!
What choosing does to a flow. A flow is filled in up to some step and empty behind it, so the steps
that are open are those up to the first empty one, and a choice empties all that are behind the one
it is for. The step that was chosen last therefore tells which steps have values: a flow is complete
when its output step was chosen with a value, and also when a step behind that one was chosen.
-/

set_option autoImplicit false

namespace DeclarativeForm

/-! ### Values of steps -/

namespace FlowState

def blank : FlowState := ⟨[]⟩

def HasStepsOf (state : FlowState) (flow : Flow) : Prop :=
  ∀ id, id ∈ state.steps.keys ↔ id ∈ flow.steps.map FlowStep.id

variable {flow : Flow} {state : FlowState} {id : String}

theorem value_of_step? {step : FlowStepState} (present : state.step? id = some step) :
    state.value id = step.value := by
  rw [value, present]

theorem value_put (state : FlowState) (id other : String) (step : FlowStepState) :
    value ⟨state.steps.put id step⟩ other =
      if other = id then step.value else state.value other := by
  unfold value step?
  rw [Keyed.find?_put]
  by_cases same : other = id
  · rw [if_pos same, if_pos same]
  · rw [if_neg same, if_neg same]

theorem modifyStep_value (state : FlowState) (id other : String)
    (change : FlowStepState → FlowStepState) :
    (state.modifyStep id change).value other =
      if other = id then ((state.step? id).map fun step => (change step).value).getD ""
      else state.value other := by
  unfold modifyStep
  cases present : state.step? id with
  | none =>
      by_cases same : other = id
      · rw [if_pos same, same, value, present]
        rfl
      · rw [if_neg same]
  | some step => exact value_put state id other (change step)

namespace HasStepsOf

theorem exists_step? (steps : state.HasStepsOf flow) (member : id ∈ flow.steps.map FlowStep.id) :
    ∃ step, state.step? id = some step := by
  cases present : state.step? id with
  | none => exact absurd ((steps id).mpr member) (Keyed.find?_eq_none_iff.mp present)
  | some step => exact ⟨step, rfl⟩

theorem value_eq (steps : state.HasStepsOf flow) (absent : id ∉ flow.steps.map FlowStep.id) :
    state.value id = "" := by
  have missing : state.step? id = none :=
    Keyed.find?_eq_none_iff.mpr fun member => absent ((steps id).mp member)
  rw [value, missing]

theorem put {current : FlowStepState} (steps : state.HasStepsOf flow)
    (present : state.step? id = some current) (step : FlowStepState) :
    HasStepsOf ⟨state.steps.put id step⟩ flow := by
  have member : id ∈ state.steps.keys := Keyed.mem_keys_of_find? present
  intro other
  rw [Keyed.mem_keys_put, ← steps other]
  constructor
  · rintro (rfl | isThere)
    · exact member
    · exact isThere
  · exact Or.inr

theorem modifyStep (steps : state.HasStepsOf flow) (id : String)
    (change : FlowStepState → FlowStepState) : (state.modifyStep id change).HasStepsOf flow := by
  unfold FlowState.modifyStep
  cases present : state.step? id with
  | none => exact steps
  | some step => exact steps.put present (change step)

end HasStepsOf

theorem complete_keeps {after : FlowState} {ticket : Ticket} {result : FetchResult}
    (done : state.complete id ticket result = some after) :
    (state.HasStepsOf flow → after.HasStepsOf flow) ∧
      ∀ other, after.value other = state.value other := by
  obtain ⟨step, present, answered⟩ := Option.bind_eq_some_iff.mp done
  obtain ⟨slot, _, same⟩ := Option.bind_eq_some_iff.mp answered
  cases same
  refine ⟨fun steps => steps.put present _, fun other => ?_⟩
  rw [value_put]
  by_cases same : other = id
  · rw [if_pos same, same, value_of_step? present]
  · rw [if_neg same]

end FlowState

open FlowState

namespace FlowProgress

theorem request_value (progress : FlowProgress) (path : String) (step : FlowStep)
    (args : List Json) (id : String) :
    (progress.request path step args).state.value id = progress.state.value id := by
  unfold request
  cases found : progress.state.step? step.id with
  | none => rfl
  | some current =>
      dsimp only
      rw [value_put]
      by_cases same : id = step.id
      · rw [if_pos same, same, value_of_step? found]
      · rw [if_neg same]

theorem request_steps {progress : FlowProgress} {flow : Flow}
    (steps : progress.state.HasStepsOf flow) (path : String) (step : FlowStep)
    (args : List Json) : (progress.request path step args).state.HasStepsOf flow := by
  unfold request
  cases found : progress.state.step? step.id with
  | none => exact steps
  | some current => exact steps.put found _

theorem clear_value (progress : FlowProgress) (id other : String) :
    (progress.clear id).state.value other =
      if other = id then "" else progress.state.value other := by
  unfold clear
  rw [modifyStep_value]
  cases progress.state.step? id <;> rfl

theorem foldl_clear_value (steps : List FlowStep) (progress : FlowProgress) (other : String) :
    (steps.foldl (fun progress step => progress.clear step.id) progress).state.value other =
      if other ∈ steps.map FlowStep.id then "" else progress.state.value other := by
  induction steps generalizing progress with
  | nil => rw [List.map_nil, if_neg List.not_mem_nil, List.foldl_nil]
  | cons first rest ih =>
      rw [List.foldl_cons, ih, clear_value, List.map_cons]
      by_cases here : other = first.id
      · rw [if_pos here, ite_self, if_pos (List.mem_cons.mpr (Or.inl here))]
      · rw [if_neg here]
        by_cases later : other ∈ rest.map FlowStep.id
        · rw [if_pos later, if_pos (List.mem_cons_of_mem _ later)]
        · rw [if_neg later, if_neg fun either => (List.mem_cons.mp either).elim here later]

theorem foldl_request_value (path : String) (args : FlowStep → List Json) (steps : List FlowStep)
    (progress : FlowProgress) (other : String) :
    (steps.foldl (fun progress step => progress.request path step (args step))
      progress).state.value other = progress.state.value other := by
  induction steps generalizing progress with
  | nil => rfl
  | cons first rest ih => rw [List.foldl_cons, ih, request_value]

theorem foldl_steps {flow : Flow} {act : FlowProgress → FlowStep → FlowProgress}
    (keeps : ∀ progress step, progress.state.HasStepsOf flow →
      (act progress step).state.HasStepsOf flow)
    (items : List FlowStep) {progress : FlowProgress} (steps : progress.state.HasStepsOf flow) :
    (items.foldl act progress).state.HasStepsOf flow := by
  induction items generalizing progress with
  | nil => exact steps
  | cons first rest ih => exact ih (keeps progress first steps)

end FlowProgress

namespace Flow

variable {flow : Flow} {state : FlowState} {id : String} {index : Nat}

/-! ### Flows nothing was chosen in -/

/-- A flow starts with all its steps, and they are empty. -/
theorem start_spec (flow : Flow) (path : String) (scope : Scope) (next : Nat) :
    (flow.start path scope next).state.HasStepsOf flow ∧
      ∀ id, (flow.start path scope next).state.value id = "" := by
  let fresh : FlowState :=
    ⟨Keyed.ofList (flow.steps.map fun step => (step.id, FlowStepState.empty))⟩
  have steps : fresh.HasStepsOf flow := by
    intro id
    have known := @Keyed.find?_eq_none_iff _ id fresh.steps
    rw [Keyed.find?_ofList, Keyed.find?_eq_none_iff, Keyed.keys, List.map_reverse,
      List.mem_reverse, List.map_map] at known
    exact (not_iff_not.mp known).symm
  have empty (id : String) : fresh.value id = "" := by
    cases present : fresh.step? id with
    | none => rw [value, present]
    | some state =>
        obtain ⟨step, _, same⟩ := List.mem_map.mp (Keyed.mem_of_find?_ofList present)
        rw [value_of_step? present, ← (Prod.mk.inj same).2]
        rfl
  unfold start
  dsimp only
  split
  · exact ⟨steps, empty⟩
  · split
    · refine ⟨FlowProgress.request_steps steps path _ _, fun id => ?_⟩
      rw [FlowProgress.request_value]
      exact empty id
    · exact ⟨steps, empty⟩

/-! ### Choices -/

theorem choose_steps (steps : state.HasStepsOf flow) (path : String) (index : Nat)
    (id value : String) (scope : Scope) (next : Nat) :
    (flow.choose path state index id value scope next).state.HasStepsOf flow := by
  let chosen : FlowProgress := ⟨state.modifyStep id fun step => { step with value }, [], next⟩
  have emptied : ((flow.steps.drop (index + 1)).foldl
      (fun progress step => progress.clear step.id) chosen).state.HasStepsOf flow :=
    FlowProgress.foldl_steps (fun _ step kept => kept.modifyStep step.id _) _
      (steps.modifyStep id _)
  unfold choose
  dsimp only
  split
  · exact emptied
  · exact FlowProgress.foldl_steps
      (fun progress step kept => FlowProgress.request_steps kept path step _) _ emptied

theorem choose_value (path : String) (steps : state.HasStepsOf flow)
    (isStep : id ∈ flow.steps.map FlowStep.id) (index : Nat) (value : String) (scope : Scope)
    (next : Nat) (other : String) :
    (flow.choose path state index id value scope next).state.value other =
      if other ∈ (flow.steps.drop (index + 1)).map FlowStep.id then ""
      else if other = id then value else state.value other := by
  obtain ⟨step, present⟩ := steps.exists_step? isStep
  unfold choose
  dsimp only
  split
  · rw [FlowProgress.foldl_clear_value, modifyStep_value, present]
    rfl
  · rw [FlowProgress.foldl_request_value, FlowProgress.foldl_clear_value, modifyStep_value, present]
    rfl

/-! ### Steps in order -/

theorem exists_step (found : flow.stepIndex id = some index) :
    ∃ step, flow.steps[index]? = some step ∧ step.id = id := by
  obtain ⟨inside, same, _⟩ := List.findIdx?_eq_some_iff_getElem.mp found
  exact ⟨_, List.getElem?_eq_getElem inside, eq_of_beq same⟩

theorem mem_ids_of_stepIndex (found : flow.stepIndex id = some index) :
    id ∈ flow.steps.map FlowStep.id := by
  obtain ⟨step, isAt, rfl⟩ := exists_step found
  exact List.mem_map_of_mem (List.mem_of_getElem? isAt)

theorem not_mem_ids_of_stepIndex (absent : flow.stepIndex id = none) :
    id ∉ flow.steps.map FlowStep.id := by
  intro member
  obtain ⟨step, isStep, same⟩ := List.mem_map.mp member
  have different := List.findIdx?_eq_none_iff.mp absent step isStep
  rw [same, beq_self_eq_true] at different
  cases different

variable {position : Nat} {step : FlowStep}

theorem eq_of_same_id (distinct : (flow.steps.map FlowStep.id).Nodup) {other : Nat}
    {peer : FlowStep} (isAt : flow.steps[position]? = some step)
    (isOther : flow.steps[other]? = some peer) (same : step.id = peer.id) : position = other := by
  have one : (flow.steps.map FlowStep.id)[position]? = some step.id := by
    rw [List.getElem?_map, isAt, Option.map_some]
  have two : (flow.steps.map FlowStep.id)[other]? = some step.id := by
    rw [List.getElem?_map, isOther, Option.map_some, same]
  obtain ⟨inside, _⟩ := List.getElem?_eq_some_iff.mp one
  exact (List.getElem?_inj inside distinct).mp (one.trans two.symm)

theorem mem_later_iff (distinct : (flow.steps.map FlowStep.id).Nodup)
    (isAt : flow.steps[position]? = some step) (index : Nat) :
    step.id ∈ (flow.steps.drop (index + 1)).map FlowStep.id ↔ index < position := by
  constructor
  · intro member
    obtain ⟨later, isLater, same⟩ := List.mem_map.mp member
    obtain ⟨offset, isOffset⟩ := List.mem_iff_getElem?.mp isLater
    rw [List.getElem?_drop] at isOffset
    have := eq_of_same_id distinct isAt isOffset same.symm
    omega
  · intro behind
    apply List.mem_map_of_mem
    apply List.mem_iff_getElem?.mpr
    refine ⟨position - (index + 1), ?_⟩
    rw [List.getElem?_drop, Nat.add_sub_cancel' behind]
    exact isAt

/-- The steps before a point have values, and those behind it have none. -/
structure FilledUpTo (flow : Flow) (state : FlowState) (point : Nat) : Prop where
  before : ∀ position step, flow.steps[position]? = some step → position < point →
    state.value step.id ≠ ""
  behind : ∀ position step, flow.steps[position]? = some step → point < position →
    state.value step.id = ""

/-- A step that is open has only filled steps before it. -/
theorem FilledUpTo.ne_of_enabled {point : Nat} (filled : flow.FilledUpTo state point)
    (enabled : flow.isStepEnabled state index = true) (isAt : flow.steps[position]? = some step)
    (before : position < index) : state.value step.id ≠ "" := by
  obtain ⟨last, rfl⟩ := Nat.exists_eq_add_one_of_ne_zero (Nat.ne_of_gt (Nat.zero_lt_of_lt before))
  rw [isStepEnabled] at enabled
  cases isLast : flow.steps[last]? with
  | none =>
      rw [isLast] at enabled
      cases enabled
  | some previous =>
      rw [isLast] at enabled
      have hasValue : state.value previous.id ≠ "" := by
        intro empty
        dsimp only at enabled
        rw [empty] at enabled
        cases enabled
      rcases Nat.lt_or_ge position point with isBefore | reached
      · exact filled.before position step isAt isBefore
      · have notBehind : ¬point < last := fun behind =>
          hasValue (filled.behind last previous isLast behind)
        have same : position = last := by omega
        subst same
        cases isAt.symm.trans isLast
        exact hasValue

theorem FilledUpTo.choose {point : Nat} (filled : flow.FilledUpTo state point)
    (steps : state.HasStepsOf flow) (distinct : (flow.steps.map FlowStep.id).Nodup)
    (found : flow.stepIndex id = some index) (enabled : flow.isStepEnabled state index = true)
    (path value : String) (scope : Scope) (next : Nat) :
    flow.FilledUpTo (flow.choose path state index id value scope next).state index where
  before position step isAt before := by
    obtain ⟨chosen, isChosen, same⟩ := exists_step found
    have earlier : step.id ∉ (flow.steps.drop (index + 1)).map FlowStep.id :=
      fun member => Nat.lt_asymm before ((mem_later_iff distinct isAt index).mp member)
    have other : step.id ≠ id := fun isSame =>
      Nat.ne_of_lt before (eq_of_same_id distinct isAt isChosen (isSame.trans same.symm))
    rw [choose_value path steps (mem_ids_of_stepIndex found), if_neg earlier, if_neg other]
    exact filled.ne_of_enabled enabled isAt before
  behind position step isAt behind := by
    rw [choose_value path steps (mem_ids_of_stepIndex found),
      if_pos ((mem_later_iff distinct isAt index).mpr behind)]

theorem FilledUpTo.congr {point : Nat} {after : FlowState} (filled : flow.FilledUpTo state point)
    (same : ∀ id, after.value id = state.value id) : flow.FilledUpTo after point where
  before position step isAt before := same step.id ▸ filled.before position step isAt before
  behind position step isAt behind := (same step.id).trans (filled.behind position step isAt behind)

theorem filledUpTo_of_empty (flow : Flow) (empty : ∀ id, state.value id = "") :
    flow.FilledUpTo state 0 :=
  ⟨fun _ _ _ before => absurd before (Nat.not_lt_zero _), fun _ step _ _ => empty step.id⟩

end Flow

/-! ### The last choice -/

inductive Writer
  | nobody
  | choice (id : String)
  | other
deriving DecidableEq

def Writer.IsPastOutput (flow : Flow) : Writer → Prop
  | .choice id => ∃ index output, flow.stepIndex id = some index ∧
      flow.stepIndex flow.outputStepId = some output ∧ output < index
  | .nobody => False
  | .other => False

theorem Flow.not_isPastOutput_choice (flow : Flow) :
    ¬(Writer.choice flow.outputStepId).IsPastOutput flow := by
  rintro ⟨index, output, isLast, isOutput, before⟩
  cases isLast.symm.trans isOutput
  exact Nat.lt_irrefl _ before

/-- In a flow that is filled up to another step the output step has a value when it is before. -/
theorem Flow.FilledUpTo.hasOutput_iff {flow : Flow} {state : FlowState} {id : String} {index : Nat}
    (filled : flow.FilledUpTo state index) (found : flow.stepIndex id = some index)
    (other : id ≠ flow.outputStepId)
    (strange : flow.stepIndex flow.outputStepId = none → state.value flow.outputStepId = "") :
    state.value flow.outputStepId ≠ "" ↔ (Writer.choice id).IsPastOutput flow := by
  constructor
  · intro hasValue
    cases spot : flow.stepIndex flow.outputStepId with
    | none => exact absurd (strange spot) hasValue
    | some output =>
        obtain ⟨step, isAt, same⟩ := Flow.exists_step spot
        refine ⟨index, output, found, spot, ?_⟩
        rcases Nat.lt_trichotomy output index with before | rfl | behind
        · exact before
        · obtain ⟨chosen, isChosen, sameId⟩ := Flow.exists_step found
          cases isAt.symm.trans isChosen
          exact absurd (sameId.symm.trans same) other
        · exact absurd (same ▸ filled.behind output step isAt behind) hasValue
  · rintro ⟨last, output, isLast, spot, before⟩
    cases found.symm.trans isLast
    obtain ⟨step, isAt, same⟩ := Flow.exists_step spot
    exact same ▸ filled.before output step isAt before

def filled? (text : String) : Option String := if text = "" then none else some text

/-- The values of the steps and what the flow shows are as the last writer has left them. -/
inductive Flow.Stands (flow : Flow) (state : FlowState) : Option String → Writer → Prop
  | untouched (empty : ∀ id, state.value id = "") : Stands flow state none .nobody
  | chosen {id : String} {index : Nat} (found : flow.stepIndex id = some index)
      (filled : flow.FilledUpTo state index) :
      Stands flow state (if id = flow.outputStepId then filled? (state.value id) else none)
        (.choice id)
  | overwritten {point : Nat} (filled : flow.FilledUpTo state point) (shown : Option String) :
      Stands flow state shown .other

namespace Flow.Stands

variable {flow : Flow} {state : FlowState} {shown : Option String} {writer : Writer}

theorem exists_filledUpTo (stands : flow.Stands state shown writer) :
    ∃ point, flow.FilledUpTo state point := by
  cases stands with
  | untouched empty => exact ⟨0, flow.filledUpTo_of_empty empty⟩
  | chosen found filled => exact ⟨_, filled⟩
  | overwritten filled => exact ⟨_, filled⟩

theorem congr {after : FlowState} (stands : flow.Stands state shown writer)
    (same : ∀ id, after.value id = state.value id) : flow.Stands after shown writer := by
  cases stands with
  | untouched empty => exact .untouched fun id => (same id).trans (empty id)
  | @chosen id index found filled =>
      rw [← same id]
      exact .chosen found (filled.congr same)
  | overwritten filled => exact .overwritten (filled.congr same) shown

/-- Where no choice has left anything there may as well be nothing. -/
theorem emptied {after : FlowState} (stands : flow.Stands state shown writer)
    (unchosen : ∀ id, writer ≠ .choice id) (empty : ∀ id, after.value id = "") :
    flow.Stands after shown writer := by
  cases stands with
  | untouched wasEmpty => exact .untouched empty
  | chosen found filled => exact absurd rfl (unchosen _)
  | overwritten filled => exact .overwritten (flow.filledUpTo_of_empty empty) shown

/-- A choice of a step that is open leaves its value where it is for the output step, and nothing
otherwise. -/
theorem choose {id : String} {index : Nat} (stands : flow.Stands state shown writer)
    (steps : state.HasStepsOf flow) (distinct : (flow.steps.map FlowStep.id).Nodup)
    (found : flow.stepIndex id = some index) (enabled : flow.isStepEnabled state index = true)
    (path value : String) (scope : Scope) (next : Nat) :
    flow.Stands (flow.choose path state index id value scope next).state
      (if id = flow.outputStepId then filled? value else none) (.choice id) := by
  obtain ⟨point, filled⟩ := stands.exists_filledUpTo
  obtain ⟨step, isAt, same⟩ := exists_step found
  have notLater : id ∉ (flow.steps.drop (index + 1)).map FlowStep.id := by
    rw [← same, mem_later_iff distinct isAt]
    exact Nat.lt_irrefl index
  have chosen := choose_value path steps (mem_ids_of_stepIndex found) index value scope next id
  rw [if_neg notLater, if_pos rfl] at chosen
  have left := Stands.chosen found
    (filled.choose steps distinct found enabled path value scope next)
  rw [chosen] at left
  exact left

/-- The output step has a value when the flow shows something or when a step behind the output step
was chosen, and what the flow shows is that value. -/
theorem agrees (stands : flow.Stands state shown writer) (own : writer ≠ .other)
    (strange : flow.stepIndex flow.outputStepId = none → state.value flow.outputStepId = "") :
    (state.value flow.outputStepId ≠ "" ↔ shown ≠ none ∨ writer.IsPastOutput flow) ∧
      (∀ text, shown = some text → state.value flow.outputStepId = text) ∧
      (writer.IsPastOutput flow → shown = none) := by
  cases stands with
  | untouched empty =>
      refine ⟨⟨fun filled => absurd (empty _) filled, ?_⟩, ?_, fun _ => rfl⟩
      · rintro (shows | past)
        · exact absurd rfl shows
        · exact past.elim
      · intro _ same
        cases same
  | overwritten filled => exact absurd rfl own
  | @chosen id index found filled =>
      by_cases isOutput : id = flow.outputStepId
      · have notPast : ¬(Writer.choice id).IsPastOutput flow :=
          isOutput ▸ flow.not_isPastOutput_choice
        rw [if_pos isOutput, isOutput, filled?]
        by_cases empty : state.value flow.outputStepId = ""
        · rw [if_pos empty]
          refine ⟨⟨fun filled => absurd empty filled, ?_⟩, ?_, fun _ => rfl⟩
          · rintro (shows | past)
            · exact absurd rfl shows
            · exact absurd (isOutput ▸ past) notPast
          · intro _ same
            cases same
        · rw [if_neg empty]
          refine ⟨⟨fun _ => Or.inl (Option.some_ne_none _), fun _ => empty⟩, ?_, ?_⟩
          · exact fun _ same => Option.some.inj same
          · exact fun past => absurd (isOutput ▸ past) notPast
      · have iff := filled.hasOutput_iff found isOutput strange
        rw [if_neg isOutput]
        refine ⟨⟨fun hasValue => Or.inr (iff.mp hasValue), ?_⟩, ?_, fun _ => rfl⟩
        · rintro (shows | past)
          · exact absurd rfl shows
          · exact iff.mpr past
        · intro _ same
          cases same

end Flow.Stands

end DeclarativeForm
