import DeclarativeForm.Proofs.Flow.Choice
import DeclarativeForm.Proofs.Options.Slot
import Mathlib.Data.List.Nodup

/-!
The options of the steps of a flow. A choice leaves the steps before the chosen one alone and renews
those behind it: they have no value and no options any more, and those that depend on the chosen
step alone are asked for with its value. The generation of a renewed step has not been used before,
so the step takes none of the tickets that were issued for it earlier.
-/

set_option autoImplicit false

namespace DeclarativeForm

namespace FlowState

theorem step?_put (state : FlowState) (id other : String) (step : FlowStepState) :
    step? ⟨state.steps.put id step⟩ other =
      if other = id then some step else state.step? other :=
  Keyed.find?_put id other step state.steps

theorem step?_modifyStep (state : FlowState) (id other : String)
    (change : FlowStepState → FlowStepState) :
    (state.modifyStep id change).step? other =
      if other = id then (state.step? id).map change else state.step? other := by
  unfold modifyStep
  cases present : state.step? id with
  | none =>
      by_cases same : other = id
      · rw [if_pos same, same, present]
        rfl
      · rw [if_neg same]
  | some step => exact step?_put state id other (change step)

theorem complete_requestedFor {state after : FlowState} {id : String} {ticket : Ticket}
    {result : FetchResult} (done : state.complete id ticket result = some after) (other : String) :
    (after.step? other).map (fun step => step.slot.requestedFor) =
      (state.step? other).map fun step => step.slot.requestedFor := by
  obtain ⟨current, isThere, answered⟩ := Option.bind_eq_some_iff.mp done
  obtain ⟨slot, taken, same⟩ := Option.bind_eq_some_iff.mp answered
  cases same
  rw [step?_put]
  by_cases here : other = id
  · rw [if_pos here, here, isThere]
    exact congrArg some (OptionsSlot.complete_eq_some taken).2.2.1
  · rw [if_neg here]

/-- A step takes the answer of no other ticket than the one it was given last. -/
theorem complete_eq_none {state : FlowState} {id : String} {step : FlowStepState}
    (present : state.step? id = some step) {ticket : Ticket}
    (stale : ticket.generation ≠ step.slot.generation) (result : FetchResult) :
    state.complete id ticket result = none := by
  have refused := (step.slot.complete_eq_none_iff ticket result).mpr stale
  simp only [complete, present, refused, Option.bind_eq_bind, Option.bind_some, Option.bind_none]

end FlowState

open FlowState

namespace FlowProgress

variable {progress : FlowProgress} {path : String} {id : String}

/-! ### Emptying steps and asking for their options -/

def clearAll (progress : FlowProgress) (steps : List FlowStep) : FlowProgress :=
  steps.foldl (fun progress step => progress.clear step.id) progress

def requestAll (progress : FlowProgress) (path : String) (args : FlowStep → List Json)
    (steps : List FlowStep) : FlowProgress :=
  steps.foldl (fun progress step => progress.request path step (args step)) progress

theorem clearAll_keeps (progress : FlowProgress) (steps : List FlowStep) :
    (progress.clearAll steps).tickets = progress.tickets ∧
      progress.next ≤ (progress.clearAll steps).next := by
  induction steps generalizing progress with
  | nil => exact ⟨rfl, Nat.le_refl _⟩
  | cons first rest ih =>
      obtain ⟨tickets, later⟩ := ih (progress.clear first.id)
      exact ⟨tickets, Nat.le_trans (Nat.le_succ _) later⟩

theorem clear_step? (progress : FlowProgress) (id other : String) :
    (progress.clear id).state.step? other =
      if other = id then
        (progress.state.step? id).map fun _ => ⟨"", .ofGeneration progress.next⟩
      else progress.state.step? other :=
  step?_modifyStep progress.state id other _

theorem clearAll_other {steps : List FlowStep} (apart : id ∉ steps.map FlowStep.id) :
    (progress.clearAll steps).state.step? id = progress.state.step? id := by
  induction steps generalizing progress with
  | nil => rfl
  | cons first rest ih =>
      rw [List.map_cons, List.mem_cons, not_or] at apart
      exact (ih apart.2).trans ((clear_step? progress first.id id).trans (if_neg apart.1))

theorem clearAll_self {steps : List FlowStep} (member : id ∈ steps.map FlowStep.id)
    (present : (progress.state.step? id).isSome = true) :
    ∃ generation, progress.next ≤ generation ∧
      (progress.clearAll steps).state.step? id = some ⟨"", .ofGeneration generation⟩ := by
  induction steps generalizing progress with
  | nil => cases member
  | cons first rest ih =>
      have cleared := clear_step? progress first.id id
      -- What counts is the last time the step is emptied.
      by_cases later : id ∈ rest.map FlowStep.id
      · have stillThere : ((progress.clear first.id).state.step? id).isSome = true := by
          rw [cleared]
          split
          · rename_i same
            rw [Option.isSome_map, ← same]
            exact present
          · exact present
        obtain ⟨generation, fresh, emptied⟩ := ih later stillThere
        exact ⟨generation, Nat.le_trans (Nat.le_succ _) fresh, emptied⟩
      · have same : id = first.id := (List.mem_cons.mp member).resolve_right later
        obtain ⟨state, isThere⟩ := Option.isSome_iff_exists.mp present
        rw [if_pos same, ← same, isThere] at cleared
        refine ⟨progress.next, Nat.le_refl _, ?_⟩
        exact (@clearAll_other (progress.clear first.id) id rest later).trans (same ▸ cleared)

theorem request_eq {step : FlowStep} {current : FlowStepState}
    (present : progress.state.step? step.id = some current) (args : List Json) :
    ∃ slot : OptionsSlot, slot.loading = true ∧ slot.generation = progress.next ∧
      slot.requestedFor = some args ∧ (current.slot.options = [] → slot.options = []) ∧
      progress.request path step args =
        ⟨⟨progress.state.steps.put step.id { current with slot }⟩,
          progress.tickets ++
            [⟨.flowStep path step.id, progress.next, step.optionsSource.function, args⟩],
          progress.next + 1⟩ := by
  refine ⟨(current.slot.request progress.next (.flowStep path step.id) step.optionsSource
    (some args) true).1, rfl, rfl, rfl, ?_, ?_⟩
  · intro nothing
    have options : (current.slot.request progress.next (.flowStep path step.id) step.optionsSource
        (some args) true).1.options =
          if current.slot.requestedFor == some args then current.slot.options else [] := rfl
    rw [options, nothing, ite_self]
  · rw [request, present]
    rfl

theorem request_tickets (progress : FlowProgress) (path : String) (step : FlowStep)
    (args : List Json) :
    progress.next ≤ (progress.request path step args).next ∧
      ∀ ticket ∈ (progress.request path step args).tickets, ticket ∈ progress.tickets ∨
        ticket.generation < (progress.request path step args).next := by
  cases present : progress.state.step? step.id with
  | none =>
      rw [request, present]
      exact ⟨Nat.le_refl _, fun _ => Or.inl⟩
  | some current =>
      obtain ⟨slot, _, _, _, _, same⟩ := @request_eq _ path _ _ present args
      rw [same]
      refine ⟨Nat.le_succ _, fun ticket member => (List.mem_append.mp member).imp_right ?_⟩
      intro isNew
      rw [List.mem_singleton.mp isNew]
      exact Nat.lt_succ_self _

theorem requestAll_tickets (path : String) (args : FlowStep → List Json) (steps : List FlowStep)
    (progress : FlowProgress) :
    progress.next ≤ (progress.requestAll path args steps).next ∧
      ∀ ticket ∈ (progress.requestAll path args steps).tickets, ticket ∈ progress.tickets ∨
        ticket.generation < (progress.requestAll path args steps).next := by
  induction steps generalizing progress with
  | nil => exact ⟨Nat.le_refl _, fun _ => Or.inl⟩
  | cons first rest ih =>
      obtain ⟨here, ofFirst⟩ := progress.request_tickets path first (args first)
      obtain ⟨later, ofRest⟩ := ih (progress.request path first (args first))
      refine ⟨Nat.le_trans here later, fun ticket member => ?_⟩
      rcases ofRest ticket member with earlier | fresh
      · exact (ofFirst ticket earlier).imp_right fun bound => Nat.lt_of_lt_of_le bound later
      · exact Or.inr fresh

theorem request_other {step : FlowStep} (different : id ≠ step.id) (args : List Json) :
    (progress.request path step args).state.step? id = progress.state.step? id := by
  cases present : progress.state.step? step.id with
  | none => rw [request, present]
  | some current =>
      obtain ⟨slot, _, _, _, _, same⟩ := @request_eq _ path _ _ present args
      rw [same, step?_put, if_neg different]

theorem requestAll_other {args : FlowStep → List Json} {steps : List FlowStep}
    (apart : id ∉ steps.map FlowStep.id) :
    (progress.requestAll path args steps).state.step? id = progress.state.step? id := by
  induction steps generalizing progress with
  | nil => rfl
  | cons first rest ih =>
      rw [List.map_cons, List.mem_cons, not_or] at apart
      exact (ih apart.2).trans (request_other apart.1 (args first))

/-! ### Renewed steps -/

/-- A step without a value and options, of a generation that is not older than `first`. What it is
asked for with is `wanted`, and it waits for a ticket if it is asked for at all. -/
structure Renewed (path : String) (first : Nat) (progress : FlowProgress) (id : String)
    (wanted : Option (List Json)) (state : FlowStepState) : Prop where
  present : progress.state.step? id = some state
  value : state.value = ""
  options : state.slot.options = []
  requestedFor : state.slot.requestedFor = wanted
  fresh : first ≤ state.slot.generation
  awaits : state.slot.loading = true ↔ ∃ ticket ∈ progress.tickets,
    ticket.target = .flowStep path id ∧ ticket.generation = state.slot.generation

variable {first : Nat} {wanted : Option (List Json)} {state : FlowStepState}

theorem Renewed.request_other (renewed : Renewed path first progress id wanted state)
    {step : FlowStep} (different : id ≠ step.id) (args : List Json) :
    Renewed path first (progress.request path step args) id wanted state := by
  refine ⟨(FlowProgress.request_other different args).trans renewed.present, renewed.value,
    renewed.options, renewed.requestedFor, renewed.fresh, renewed.awaits.trans ?_⟩
  cases present : progress.state.step? step.id with
  | none => rw [request, present]
  | some current =>
      obtain ⟨slot, _, _, _, _, same⟩ := @request_eq _ path _ _ present args
      rw [same]
      constructor
      · rintro ⟨ticket, member, isFor⟩
        exact ⟨ticket, List.mem_append_left _ member, isFor⟩
      · rintro ⟨ticket, member, target, generation⟩
        rcases List.mem_append.mp member with earlier | isNew
        · exact ⟨ticket, earlier, target, generation⟩
        · rw [List.mem_singleton.mp isNew] at target
          injection target with _ sameId
          exact absurd sameId.symm different

theorem Renewed.request_self {step : FlowStep}
    (renewed : Renewed path first progress step.id wanted state) (later : first ≤ progress.next)
    (args : List Json) :
    ∃ after, Renewed path first (progress.request path step args) step.id (some args) after := by
  obtain ⟨slot, loading, generation, requestedFor, options, same⟩ :=
    @request_eq _ path _ _ renewed.present args
  rw [same]
  refine ⟨{ state with slot }, ?_, renewed.value, options renewed.options, requestedFor, ?_, ?_⟩
  · rw [step?_put, if_pos rfl]
  · exact generation ▸ later
  · refine iff_of_true loading ⟨_, List.mem_append_right _ List.mem_cons_self, rfl, ?_⟩
    exact generation.symm

theorem Renewed.requestAll_other (renewed : Renewed path first progress id wanted state)
    {args : FlowStep → List Json} {steps : List FlowStep} (apart : id ∉ steps.map FlowStep.id) :
    Renewed path first (progress.requestAll path args steps) id wanted state := by
  induction steps generalizing progress with
  | nil => exact renewed
  | cons head rest ih =>
      rw [List.map_cons, List.mem_cons, not_or] at apart
      exact ih (renewed.request_other apart.1 (args head)) apart.2

theorem Renewed.requestAll_self {step : FlowStep}
    (renewed : Renewed path first progress step.id wanted state) (later : first ≤ progress.next)
    {args : FlowStep → List Json} {steps : List FlowStep} (member : step ∈ steps)
    (distinct : (steps.map FlowStep.id).Nodup) :
    ∃ after, Renewed path first (progress.requestAll path args steps) step.id (some (args step))
      after := by
  induction steps generalizing progress with
  | nil => cases member
  | cons head rest ih =>
      rw [List.map_cons, List.nodup_cons] at distinct
      rcases List.mem_cons.mp member with rfl | inRest
      · obtain ⟨after, asked⟩ := renewed.request_self later (args step)
        exact ⟨after, asked.requestAll_other distinct.1⟩
      · have different : step.id ≠ head.id := by
          intro same
          exact distinct.1 (same ▸ List.mem_map_of_mem inRest)
        have grown := Nat.le_trans later (progress.request_tickets path head (args head)).1
        exact ih (renewed.request_other different (args head)) grown inRest distinct.2

end FlowProgress

open FlowProgress

/-- What the options of a step are asked for with when a value is chosen for another step. -/
def FlowStep.argsAfter (step : FlowStep) (id value : String) (scope : Scope) :
    Option (List Json) :=
  if value.isEmpty || !step.dependsOn id then none
  else some (.string value :: step.paramValues scope)

namespace Flow

variable {flow : Flow} {state : FlowState} {id : String} {index position : Nat} {step : FlowStep}

/-! ### Flows nothing was chosen in -/

theorem start_unasked (distinct : (flow.steps.map FlowStep.id).Nodup) (path : String)
    (scope : Scope) (next : Nat) (isAt : flow.steps[position]? = some step) (behind : 0 < position)
    {current : FlowStepState}
    (present : (flow.start path scope next).state.step? step.id = some current) :
    current.slot.requestedFor = none := by
  let fresh : FlowState :=
    ⟨Keyed.ofList (flow.steps.map fun step => (step.id, FlowStepState.empty))⟩
  have unasked : fresh.step? step.id = some current → current.slot.requestedFor = none := by
    intro isFresh
    obtain ⟨_, _, same⟩ := List.mem_map.mp (Keyed.mem_of_find?_ofList isFresh)
    rw [← (Prod.mk.inj same).2]
    rfl
  unfold start at present
  dsimp only at present
  split at present
  · exact unasked present
  · rename_i head rest isSteps
    split at present
    · have isHead : flow.steps[0]? = some head := by
        rw [isSteps]
        rfl
      have different : step.id ≠ head.id := fun same =>
        Nat.ne_of_gt behind (eq_of_same_id distinct isAt isHead same)
      refine unasked (Eq.trans (Eq.symm ?_) present)
      exact @requestAll_other ⟨fresh, [], next⟩ path step.id
        (fun step => step.paramValues scope) [head] fun member =>
          different (List.mem_singleton.mp member)
    · exact unasked present

theorem start_tickets (flow : Flow) (path : String) (scope : Scope) (next : Nat) :
    ∀ ticket ∈ (flow.start path scope next).tickets,
      ticket.generation < (flow.start path scope next).next := by
  intro ticket
  unfold start
  dsimp only
  split
  · exact fun member => nomatch member
  · split
    · intro member
      have issued := (request_tickets _ path _ _).2 ticket member
      exact issued.resolve_left List.not_mem_nil
    · exact fun member => nomatch member

/-! ### Choices -/

theorem choose_eq (flow : Flow) (path : String) (state : FlowState) (index : Nat)
    (id value : String) (scope : Scope) (next : Nat) :
    flow.choose path state index id value scope next =
      if value.isEmpty then
        clearAll ⟨state.modifyStep id fun step => { step with value }, [], next⟩
          (flow.steps.drop (index + 1))
      else
        requestAll
          (clearAll ⟨state.modifyStep id fun step => { step with value }, [], next⟩
            (flow.steps.drop (index + 1)))
          path (fun step => .string value :: step.paramValues scope)
          ((flow.steps.drop (index + 1)).filter fun step => step.dependsOn id) :=
  rfl

theorem choose_tickets (flow : Flow) (path : String) (state : FlowState) (index : Nat)
    (id value : String) (scope : Scope) (next : Nat) :
    next ≤ (flow.choose path state index id value scope next).next ∧
      ∀ ticket ∈ (flow.choose path state index id value scope next).tickets,
        ticket.generation < (flow.choose path state index id value scope next).next := by
  let chosen : FlowProgress := ⟨state.modifyStep id fun step => { step with value }, [], next⟩
  obtain ⟨none, later⟩ := chosen.clearAll_keeps (flow.steps.drop (index + 1))
  rw [choose_eq]
  split
  · refine ⟨later, fun ticket member => ?_⟩
    rw [none] at member
    cases member
  · obtain ⟨grown, issued⟩ := requestAll_tickets path
      (fun step => .string value :: step.paramValues scope)
      ((flow.steps.drop (index + 1)).filter fun step => step.dependsOn id)
      (chosen.clearAll (flow.steps.drop (index + 1)))
    refine ⟨Nat.le_trans later grown, fun ticket member => ?_⟩
    refine (issued ticket member).resolve_left fun earlier => ?_
    rw [none] at earlier
    cases earlier

theorem ids_filter_subset (steps : List FlowStep) (keep : FlowStep → Bool)
    (apart : id ∉ steps.map FlowStep.id) : id ∉ (steps.filter keep).map FlowStep.id :=
  fun member => apart ((List.filter_sublist.map FlowStep.id).subset member)

theorem choose_before (distinct : (flow.steps.map FlowStep.id).Nodup)
    (found : flow.stepIndex id = some index) (path value : String) (scope : Scope) (next : Nat)
    (isAt : flow.steps[position]? = some step) (before : position ≠ index)
    (notBehind : ¬index < position) :
    (flow.choose path state index id value scope next).state.step? step.id =
      state.step? step.id := by
  have apart : step.id ∉ (flow.steps.drop (index + 1)).map FlowStep.id := by
    rw [mem_later_iff distinct isAt]
    exact notBehind
  have different : step.id ≠ id := by
    obtain ⟨chosen, isChosen, same⟩ := exists_step found
    intro equal
    exact before (eq_of_same_id distinct isAt isChosen (equal.trans same.symm))
  have untouched : (state.modifyStep id fun step => { step with value }).step? step.id =
      state.step? step.id := (step?_modifyStep _ _ _ _).trans (if_neg different)
  rw [choose_eq]
  split
  · exact (clearAll_other apart).trans untouched
  · rw [FlowProgress.requestAll_other (ids_filter_subset _ _ apart)]
    exact (clearAll_other apart).trans untouched

theorem choose_self (distinct : (flow.steps.map FlowStep.id).Nodup)
    (found : flow.stepIndex id = some index) (path value : String) (scope : Scope) (next : Nat) :
    (flow.choose path state index id value scope next).state.step? id =
      (state.step? id).map fun step => { step with value } := by
  obtain ⟨chosen, isChosen, same⟩ := exists_step found
  have apart : id ∉ (flow.steps.drop (index + 1)).map FlowStep.id := by
    rw [← same, mem_later_iff distinct isChosen]
    exact Nat.lt_irrefl index
  have changed : (state.modifyStep id fun step => { step with value }).step? id =
      (state.step? id).map fun step => { step with value } :=
    (step?_modifyStep _ _ _ _).trans (if_pos rfl)
  rw [choose_eq]
  split
  · exact (clearAll_other apart).trans changed
  · rw [FlowProgress.requestAll_other (ids_filter_subset _ _ apart)]
    exact (clearAll_other apart).trans changed

theorem choose_slot (distinct : (flow.steps.map FlowStep.id).Nodup)
    (found : flow.stepIndex id = some index) (path value : String) (scope : Scope) (next : Nat)
    (isAt : flow.steps[position]? = some step) (notBehind : ¬index < position) :
    ((flow.choose path state index id value scope next).state.step? step.id).map
        FlowStepState.slot = (state.step? step.id).map FlowStepState.slot := by
  by_cases here : position = index
  · obtain ⟨chosen, isChosen, same⟩ := exists_step found
    rw [here] at isAt
    cases isAt.symm.trans isChosen
    rw [same, choose_self distinct found, Option.map_map]
    rfl
  · rw [choose_before distinct found path value scope next isAt here notBehind]

theorem choose_value_before (steps : state.HasStepsOf flow)
    (distinct : (flow.steps.map FlowStep.id).Nodup) (found : flow.stepIndex id = some index)
    (path value : String) (scope : Scope) (next : Nat) (isAt : flow.steps[position]? = some step)
    (before : position < index) :
    (flow.choose path state index id value scope next).state.value step.id =
      state.value step.id := by
  have notLater : step.id ∉ (flow.steps.drop (index + 1)).map FlowStep.id := by
    rw [mem_later_iff distinct isAt]
    omega
  have different : step.id ≠ id := by
    obtain ⟨chosen, isChosen, same⟩ := exists_step found
    intro equal
    exact Nat.ne_of_lt before (eq_of_same_id distinct isAt isChosen (equal.trans same.symm))
  rw [choose_value path steps (mem_ids_of_stepIndex found), if_neg notLater, if_neg different]

theorem choose_value_self (steps : state.HasStepsOf flow)
    (distinct : (flow.steps.map FlowStep.id).Nodup) (found : flow.stepIndex id = some index)
    (path value : String) (scope : Scope) (next : Nat) :
    (flow.choose path state index id value scope next).state.value id = value := by
  obtain ⟨chosen, isChosen, same⟩ := exists_step found
  have notLater : id ∉ (flow.steps.drop (index + 1)).map FlowStep.id := by
    rw [← same, mem_later_iff distinct isChosen]
    exact Nat.lt_irrefl index
  rw [choose_value path steps (mem_ids_of_stepIndex found), if_neg notLater, if_pos rfl]

theorem choose_behind (steps : state.HasStepsOf flow)
    (distinct : (flow.steps.map FlowStep.id).Nodup) (path value : String) (scope : Scope)
    (next : Nat) (isAt : flow.steps[position]? = some step) (behind : index < position) :
    ∃ after, Renewed path next (flow.choose path state index id value scope next) step.id
      (step.argsAfter id value scope) after := by
  let chosen : FlowProgress := ⟨state.modifyStep id fun step => { step with value }, [], next⟩
  let later := flow.steps.drop (index + 1)
  have member : step.id ∈ later.map FlowStep.id := (mem_later_iff distinct isAt index).mpr behind
  obtain ⟨none, grown⟩ := chosen.clearAll_keeps later
  obtain ⟨present, isThere⟩ := (steps.modifyStep id fun step => { step with value }).exists_step?
    (List.mem_map_of_mem (List.mem_of_getElem? isAt))
  obtain ⟨generation, fresh, emptied⟩ := @clearAll_self chosen step.id later member
    (Option.isSome_iff_exists.mpr ⟨present, isThere⟩)
  have renewed : Renewed path next (chosen.clearAll later) step.id Option.none
      ⟨"", .ofGeneration generation⟩ := by
    refine ⟨emptied, rfl, rfl, rfl, fresh, iff_of_false Bool.false_ne_true ?_⟩
    rintro ⟨ticket, issued, _⟩
    rw [none] at issued
    cases issued
  have isStep : step ∈ flow.steps := List.mem_of_getElem? isAt
  have unique := List.inj_on_of_nodup_map distinct
  rw [choose_eq, FlowStep.argsAfter]
  cases empty : value.isEmpty with
  | true => exact ⟨_, renewed⟩
  | false =>
      rw [if_neg Bool.false_ne_true, Bool.false_or]
      have fewer : (later.filter fun step => step.dependsOn id).Sublist flow.steps :=
        List.filter_sublist.trans (List.drop_sublist _ _)
      cases depends : step.dependsOn id with
      | true =>
          obtain ⟨peer, isPeer, same⟩ := List.mem_map.mp member
          rw [unique ((List.drop_sublist _ _).subset isPeer) isStep same] at isPeer
          exact renewed.requestAll_self grown (List.mem_filter.mpr ⟨isPeer, depends⟩)
            (distinct.sublist (fewer.map FlowStep.id))
      | false =>
          refine ⟨_, renewed.requestAll_other fun inFilter => ?_⟩
          obtain ⟨peer, isPeer, same⟩ := List.mem_map.mp inFilter
          have dependent := (List.mem_filter.mp isPeer).2
          rw [unique (fewer.subset isPeer) isStep same, depends] at dependent
          cases dependent

end Flow

end DeclarativeForm
