import DeclarativeForm.Proofs.Flow.Renewal

/-!
Runs of a flow. A flow is started, values are chosen for its steps, and answers of the tickets that
were issued for it come in, in any order and as often as a host likes; other parts of the form use
up generations in between. In every run the steps with values come first, and what a step behind the
first is asked for with starts with the value which the step it depends on has now.
-/

set_option autoImplicit false

namespace DeclarativeForm

/-! ### Selections -/

inductive Flow.Selects (flow : Flow) (path : String) (state : FlowState) (id value : String)
    (scope : Scope) (next : Nat) : FlowSelection × FlowState × Nat → Prop
  | unknown (absent : flow.stepIndex id = none) :
      Selects flow path state id value scope next (.unknownStep, state, next)
  | locked {index : Nat} (found : flow.stepIndex id = some index)
      (closed : flow.isStepEnabled state index = false) :
      Selects flow path state id value scope next (.locked, state, next)
  | applied {index : Nat} (found : flow.stepIndex id = some index)
      (enabled : flow.isStepEnabled state index = true) (output : Option String)
      (reset : List String) :
      Selects flow path state id value scope next
        (.applied ⟨(flow.choose path state index id value scope next).tickets, output, reset⟩,
          (flow.choose path state index id value scope next).state,
          (flow.choose path state index id value scope next).next)

theorem Flow.select_selects (flow : Flow) (path : String) (state : FlowState) (id value : String)
    (scope : Scope) (next : Nat) :
    flow.Selects path state id value scope next
      (flow.select path state id value scope next) := by
  unfold select
  cases found : flow.stepIndex id with
  | none => exact .unknown found
  | some index =>
      dsimp only
      cases enabled : flow.isStepEnabled state index with
      | false => exact .locked found enabled
      | true => exact .applied found enabled _ _

/-! ### Runs -/

/-- A flow that is being filled in: its state, the next unused generation, the tickets that were
issued for it, and the steps that values were chosen for, the last one first. -/
structure FlowRun where
  state : FlowState
  next : Nat
  issued : List Ticket
  chosen : List String

namespace FlowRun

def start (flow : Flow) (path : String) (scope : Scope) (next : Nat) : FlowRun :=
  let progress := flow.start path scope next
  ⟨progress.state, progress.next, progress.tickets, []⟩

def select (run : FlowRun) (flow : Flow) (path id value : String) (scope : Scope) : FlowRun :=
  match flow.select path run.state id value scope run.next with
  | (.applied change, state, next) =>
    ⟨state, next, run.issued ++ change.tickets, id :: run.chosen⟩
  | (_, state, next) => { run with state, next }

def choose (run : FlowRun) (flow : Flow) (path : String) (index : Nat) (id value : String)
    (scope : Scope) : FlowRun :=
  let progress := flow.choose path run.state index id value scope run.next
  ⟨progress.state, progress.next, run.issued ++ progress.tickets, id :: run.chosen⟩

def complete (run : FlowRun) (ticket : Ticket) (result : FetchResult) : FlowRun :=
  match ticket.target with
  | .flowStep _ id => { run with state := (run.state.complete id ticket result).getD run.state }
  | .field _ => run

/-- The runs of a flow at a path. What a scope holds may differ from one selection to the next. -/
inductive Reachable (flow : Flow) (path : String) : FlowRun → Prop
  | started (scope : Scope) (next : Nat) : Reachable flow path (start flow path scope next)
  | elsewhere {run : FlowRun} (later : Nat) (grown : run.next ≤ later)
      (reachable : Reachable flow path run) : Reachable flow path { run with next := later }
  | selected {run : FlowRun} (id value : String) (scope : Scope)
      (reachable : Reachable flow path run) :
      Reachable flow path (run.select flow path id value scope)
  | completed {run : FlowRun} {ticket : Ticket} (issued : ticket ∈ run.issued)
      (result : FetchResult) (reachable : Reachable flow path run) :
      Reachable flow path (run.complete ticket result)

variable {flow : Flow} {path : String} {run : FlowRun}

theorem select_cases (run : FlowRun) (flow : Flow) (path id value : String) (scope : Scope) :
    run.select flow path id value scope = run ∨ ∃ index, flow.stepIndex id = some index ∧
      flow.isStepEnabled run.state index = true ∧
      run.select flow path id value scope = run.choose flow path index id value scope := by
  have reached := flow.select_selects path run.state id value scope run.next
  unfold select
  generalize flow.select path run.state id value scope run.next = result at reached ⊢
  cases reached with
  | unknown absent => exact Or.inl rfl
  | locked found closed => exact Or.inl rfl
  | applied found enabled output reset => exact Or.inr ⟨_, found, enabled, rfl⟩

theorem complete_cases (run : FlowRun) (ticket : Ticket) (result : FetchResult) :
    run.complete ticket result = run ∨ ∃ id after,
      run.state.complete id ticket result = some after ∧
        run.complete ticket result = { run with state := after } := by
  unfold complete
  cases ticket.target with
  | field path => exact Or.inl rfl
  | flowStep path id =>
      dsimp only
      cases done : run.state.complete id ticket result with
      | none => exact Or.inl rfl
      | some after => exact Or.inr ⟨id, after, done, rfl⟩

/-! ### What every run keeps -/

/-- What the step at a position is asked for with starts with the value of a step before it, the one
that it depends on. -/
def AsksForCurrent (flow : Flow) (state : FlowState) (position : Nat) (step : FlowStep) : Prop :=
  ∀ current args, state.step? step.id = some current → current.slot.requestedFor = some args →
    ∃ earlier source, earlier < position ∧ flow.steps[earlier]? = some source ∧
      step.optionsSource.dependsOn = some (.one source.id) ∧
      args.head? = some (.string (state.value source.id))

structure Orderly (flow : Flow) (run : FlowRun) : Prop where
  steps : run.state.HasStepsOf flow
  filled : ∃ point, flow.FilledUpTo run.state point
  known : ∀ ticket ∈ run.issued, ticket.generation < run.next
  current : ∀ position step, flow.steps[position]? = some step → 0 < position →
    AsksForCurrent flow run.state position step

theorem start_orderly (distinct : (flow.steps.map FlowStep.id).Nodup) (path : String)
    (scope : Scope) (next : Nat) : (start flow path scope next).Orderly flow where
  steps := (flow.start_spec path scope next).1
  filled := ⟨0, flow.filledUpTo_of_empty (flow.start_spec path scope next).2⟩
  known := flow.start_tickets path scope next
  current position step isAt behind current args present asked := by
    rw [Flow.start_unasked distinct path scope next isAt behind present] at asked
    cases asked

theorem dependsOn_iff {step : FlowStep} {id : String} :
    step.dependsOn id = true ↔ step.optionsSource.dependsOn = some (.one id) := by
  unfold FlowStep.dependsOn
  cases step.optionsSource.dependsOn with
  | none => exact iff_of_false Bool.false_ne_true (Option.some_ne_none _).symm
  | some dependencies =>
      cases dependencies with
      | one name =>
          change (name == id) = true ↔ _
          rw [beq_iff_eq, Option.some.injEq, Dependencies.one.injEq]
      | many names =>
          refine iff_of_false Bool.false_ne_true fun same => ?_
          cases same

theorem argsAfter_eq_some {step : FlowStep} {id value : String} {scope : Scope}
    {args : List Json} (asked : step.argsAfter id value scope = some args) :
    step.optionsSource.dependsOn = some (.one id) ∧ args.head? = some (.string value) := by
  unfold FlowStep.argsAfter at asked
  split at asked
  · cases asked
  · rename_i wanted
    rw [Bool.or_eq_true, not_or, Bool.not_eq_true', Bool.not_eq_false] at wanted
    cases asked
    exact ⟨dependsOn_iff.mp wanted.2, rfl⟩

/-- A choice keeps what holds of the steps up to the chosen one, and asks for those behind it with
the chosen value. -/
theorem choose_asksForCurrent {state : FlowState} {id : String} {index : Nat}
    (steps : state.HasStepsOf flow) (distinct : (flow.steps.map FlowStep.id).Nodup)
    (found : flow.stepIndex id = some index) (value : String) (scope : Scope) (next : Nat)
    {position : Nat} {step : FlowStep} (isAt : flow.steps[position]? = some step)
    (before : AsksForCurrent flow state position step) :
    AsksForCurrent flow (flow.choose path state index id value scope next).state position
      step := by
  intro current args present asked
  by_cases behind : index < position
  · obtain ⟨chosen, isChosen, sameId⟩ := Flow.exists_step found
    obtain ⟨after, renewed⟩ :=
      Flow.choose_behind steps distinct path value scope next isAt behind
    cases renewed.present.symm.trans present
    obtain ⟨depends, head⟩ := argsAfter_eq_some (renewed.requestedFor.symm.trans asked)
    refine ⟨index, chosen, behind, isChosen, sameId ▸ depends, ?_⟩
    rw [head, sameId, Flow.choose_value_self steps distinct found]
  · have slot := @Flow.choose_slot flow state id index position step distinct found path value scope
      next isAt behind
    rw [present] at slot
    obtain ⟨earlierState, isThere, same⟩ := Option.map_eq_some_iff.mp slot.symm
    rw [← same] at asked
    obtain ⟨earlier, source, isEarlier, isSource, depends, head⟩ := before _ args isThere asked
    refine ⟨earlier, source, isEarlier, isSource, depends, ?_⟩
    rw [head, Flow.choose_value_before steps distinct found path value scope next isSource
      (by omega)]

theorem Orderly.select (orderly : run.Orderly flow)
    (distinct : (flow.steps.map FlowStep.id).Nodup) (path id value : String) (scope : Scope) :
    (run.select flow path id value scope).Orderly flow := by
  rcases run.select_cases flow path id value scope with same | ⟨index, found, enabled, same⟩
  · rw [same]
    exact orderly
  · rw [same]
    obtain ⟨point, filled⟩ := orderly.filled
    obtain ⟨grown, fresh⟩ := flow.choose_tickets path run.state index id value scope run.next
    refine ⟨Flow.choose_steps orderly.steps path index id value scope run.next,
      ⟨index, filled.choose orderly.steps distinct found enabled path value scope run.next⟩,
      ?_, ?_⟩
    · intro ticket member
      rcases List.mem_append.mp member with earlier | isNew
      · exact Nat.lt_of_lt_of_le (orderly.known ticket earlier) grown
      · exact fresh ticket isNew
    · intro position step isAt behind
      exact choose_asksForCurrent orderly.steps distinct found value scope run.next isAt
        (orderly.current position step isAt behind)

theorem Orderly.complete (orderly : run.Orderly flow) (ticket : Ticket) (result : FetchResult) :
    (run.complete ticket result).Orderly flow := by
  rcases run.complete_cases ticket result with same | ⟨id, after, done, same⟩
  · rw [same]
    exact orderly
  · rw [same]
    obtain ⟨steps, values⟩ := @FlowState.complete_keeps flow _ _ _ _ _ done
    obtain ⟨point, filled⟩ := orderly.filled
    refine ⟨steps orderly.steps, ⟨point, filled.congr values⟩, orderly.known, ?_⟩
    intro position step isAt behind current args present asked
    have sameRequests := FlowState.complete_requestedFor done step.id
    rw [present] at sameRequests
    obtain ⟨before, isThere, requested⟩ := Option.map_eq_some_iff.mp sameRequests.symm
    obtain ⟨earlier, source, isEarlier, isSource, depends, head⟩ :=
      orderly.current position step isAt behind before args isThere (requested.trans asked)
    exact ⟨earlier, source, isEarlier, isSource, depends, (values source.id).symm ▸ head⟩

theorem Reachable.orderly (reachable : Reachable flow path run)
    (distinct : (flow.steps.map FlowStep.id).Nodup) : run.Orderly flow := by
  induction reachable with
  | started scope next => exact start_orderly distinct path scope next
  | elsewhere later grown _ ih =>
      exact ⟨ih.steps, ih.filled,
        fun ticket member => Nat.lt_of_lt_of_le (ih.known ticket member) grown, ih.current⟩
  | selected id value scope _ ih => exact ih.select distinct path id value scope
  | completed _ result _ ih => exact ih.complete _ result

theorem Orderly.exists_count (orderly : run.Orderly flow) :
    ∃ count, ∀ (position : Nat) (step : FlowStep), flow.steps[position]? = some step →
      (run.state.value step.id ≠ "" ↔ position < count) := by
  obtain ⟨point, filled⟩ := orderly.filled
  -- Whether the step at the point itself has a value is left open.
  by_cases reached : ∃ step, flow.steps[point]? = some step ∧ run.state.value step.id ≠ ""
  · obtain ⟨last, isLast, hasValue⟩ := reached
    refine ⟨point + 1, fun position step isAt => ?_⟩
    rcases Nat.lt_trichotomy position point with before | rfl | behind
    · exact iff_of_true (filled.before position step isAt before) (Nat.lt_succ_of_lt before)
    · cases isAt.symm.trans isLast
      exact iff_of_true hasValue (Nat.lt_succ_self _)
    · exact iff_of_false (fun value => value (filled.behind position step isAt behind)) (by omega)
  · refine ⟨point, fun position step isAt => ?_⟩
    rcases Nat.lt_trichotomy position point with before | rfl | behind
    · exact iff_of_true (filled.before position step isAt before) before
    · exact iff_of_false (fun value => reached ⟨step, isAt, value⟩) (Nat.lt_irrefl _)
    · exact iff_of_false (fun value => value (filled.behind position step isAt behind)) (by omega)

/-- In every run the steps with values come first; a selection that is refused changes nothing; one
that is applied keeps the steps before the chosen one and renews those behind it, which wait for the
tickets of the selection and take none that were issued before; and a step behind the first is asked
for what the step that it depends on is worth now. -/
theorem Reachable.sequential (reachable : Reachable flow path run)
    (distinct : (flow.steps.map FlowStep.id).Nodup) :
    (∃ count, ∀ (position : Nat) (step : FlowStep), flow.steps[position]? = some step →
      (run.state.value step.id ≠ "" ↔ position < count)) ∧
    (∀ id value scope,
      (flow.select path run.state id value scope run.next).1 = .locked ∨
          (flow.select path run.state id value scope run.next).1 = .unknownStep →
        (flow.select path run.state id value scope run.next).2 = (run.state, run.next)) ∧
    (∀ id value scope change after next,
      flow.select path run.state id value scope run.next = (.applied change, after, next) →
        ∃ index, flow.stepIndex id = some index ∧
          ∀ position step, flow.steps[position]? = some step →
            (position < index → after.step? step.id = run.state.step? step.id) ∧
            (index < position → ∃ renewed, after.step? step.id = some renewed ∧
              renewed.value = "" ∧ renewed.slot.options = [] ∧
              (renewed.slot.loading = true ↔ ∃ ticket ∈ change.tickets,
                ticket.target = .flowStep path step.id ∧
                  ticket.generation = renewed.slot.generation) ∧
              ∀ ticket ∈ run.issued, ticket.target = .flowStep path step.id →
                ∀ result, after.complete step.id ticket result = none)) ∧
    (∀ position step current args, flow.steps[position]? = some step → 0 < position →
      run.state.step? step.id = some current → current.slot.requestedFor = some args →
        ∃ earlier source, earlier < position ∧ flow.steps[earlier]? = some source ∧
          step.optionsSource.dependsOn = some (.one source.id) ∧
          args.head? = some (.string (run.state.value source.id))) := by
  have orderly := reachable.orderly distinct
  refine ⟨orderly.exists_count, ?_, ?_, ?_⟩
  · intro id value scope
    have reached := flow.select_selects path run.state id value scope run.next
    generalize flow.select path run.state id value scope run.next = result at reached ⊢
    cases reached with
    | unknown absent => exact fun _ => rfl
    | locked found closed => exact fun _ => rfl
    | applied found enabled output reset =>
        rintro (isLocked | isUnknown)
        · cases isLocked
        · cases isUnknown
  · intro id value scope change after next same
    have reached := flow.select_selects path run.state id value scope run.next
    rw [same] at reached
    cases reached with
    | @applied index found enabled output reset =>
        refine ⟨index, found, fun position step isAt => ⟨fun before => ?_, fun behind => ?_⟩⟩
        · exact Flow.choose_before distinct found path value scope run.next isAt (by omega)
            (by omega)
        · obtain ⟨renewed, isRenewed⟩ :=
            Flow.choose_behind orderly.steps distinct path value scope run.next isAt behind
          refine ⟨renewed, isRenewed.present, isRenewed.value, isRenewed.options,
            isRenewed.awaits, fun ticket issued _ result => ?_⟩
          have older := Nat.lt_of_lt_of_le (orderly.known ticket issued) isRenewed.fresh
          exact FlowState.complete_eq_none isRenewed.present (Nat.ne_of_lt older) result
  · intro position step current args isAt behind present asked
    exact orderly.current position step isAt behind current args present asked

def trip : Flow where
  name := "trip"
  label := none
  helpText := none
  validation := none
  showWhen := none
  steps := [⟨"country", "Country", none, none, ⟨"countries", none, [], none⟩, none⟩,
    ⟨"city", "City", none, none, ⟨"cities", some (.one "country"), [], none⟩, none⟩,
    ⟨"guide", "Guide", none, none, ⟨"guides", some (.one "country"), [], none⟩, none⟩]
  outputStepId := "guide"
  showAllSteps := false

def nowhere : Scope := .global (.object [])

def inItaly : FlowRun :=
  (start trip "trip" nowhere 1).select trip "trip" "country" "Italy" nowhere

theorem inItaly_reachable : Reachable trip "trip" inItaly :=
  .selected "country" "Italy" nowhere (.started nowhere 1)

/-- The guides of Italy that were asked for are refused once the country is France. -/
theorem italianGuides_refused :
    (∃ ticket ∈ inItaly.issued, ticket.target = .flowStep "trip" "guide") ∧
    ∃ renewed,
      (trip.select "trip" inItaly.state "country" "France" nowhere inItaly.next).2.1.step?
        "guide" = some renewed ∧
      renewed.value = "" ∧ renewed.slot.options = [] ∧
      ∀ ticket ∈ inItaly.issued, ticket.target = .flowStep "trip" "guide" → ∀ result,
        (trip.select "trip" inItaly.state "country" "France" nowhere inItaly.next).2.1.complete
          "guide" ticket result = none := by
  have distinct : (trip.steps.map FlowStep.id).Nodup := by decide +kernel
  obtain ⟨_, _, renews, _⟩ := inItaly_reachable.sequential distinct
  obtain ⟨index, found, places⟩ := renews "country" "France" nowhere _ _ _ rfl
  have isFirst : trip.stepIndex "country" = some 0 := by decide +kernel
  cases found.symm.trans isFirst
  obtain ⟨renewed, present, value, options, _, refused⟩ :=
    (places 2 _ rfl).2 (Nat.zero_lt_succ 1)
  exact ⟨by decide +kernel, renewed, present, value, options, refused⟩

end FlowRun

end DeclarativeForm
