import DeclarativeForm.Engine.Sync
import DeclarativeForm.Proofs.Keyed
import DeclarativeForm.Proofs.Options.Slot
import Mathlib.Logic.Relation

/-!
The part of an engine that fetching is about: the slots of all targets, the queue and the next
unused generation. Fields and flow steps are treated alike. Whatever an engine does on its own
account is a chain of two kinds of steps on this part: a ticket is issued for one slot, or slots
are emptied or dropped.
-/

set_option autoImplicit false

namespace DeclarativeForm

def Store.slotAt? (store : Store) : FetchTarget → Option OptionsSlot
  | .field path => store.slot? path
  | .flowStep path step =>
    match store.flow? path with
    | some state => (state.step? step).map FlowStepState.slot
    | none => none

structure Desk where
  slots : FetchTarget → Option OptionsSlot
  pending : List Ticket
  next : Nat

def Engine.desk (engine : Engine) : Desk :=
  ⟨engine.store.slotAt?, engine.pending, engine.next⟩

namespace Desk

/-- An empty slot whose generation no ticket has: zero, or one that was taken for the slot. -/
def Blank (next after : Nat) (slot : OptionsSlot) : Prop :=
  ∃ generation, slot = .ofGeneration generation ∧
    (generation = 0 ∨ next ≤ generation ∧ generation < after)

/-- What an engine does on its own account. Slots that are not spoken of are kept or dropped. -/
inductive Step (desk : Desk) : Desk → Prop
  /-- A ticket is issued and the slot of its target waits for it. The slot keeps its options only
  if it was requested for the same arguments before. -/
  | issue (ticket : Ticket) (slot : OptionsSlot) (slots : FetchTarget → Option OptionsSlot)
      (fresh : ticket.generation = desk.next) (current : slot.generation = desk.next)
      (waiting : slot.loading = true) (requested : slot.requestedFor = some ticket.args)
      (options : slot.options = [] ∨ ∃ before, desk.slots ticket.target = some before ∧
        slot.options = before.options ∧ (before.requestedFor == some ticket.args) = true)
      (others : ∀ target found, slots target = some found →
        target = ticket.target ∧ found = slot ∨
          target ≠ ticket.target ∧ desk.slots target = some found) :
      Step desk ⟨slots, desk.pending ++ [ticket], desk.next + 1⟩
  /-- Slots are emptied or dropped, and generations may be used up. -/
  | blank (slots : FetchTarget → Option OptionsSlot) (next : Nat) (later : desk.next ≤ next)
      (others : ∀ target found, slots target = some found →
        desk.slots target = some found ∨ Blank desk.next next found) :
      Step desk ⟨slots, desk.pending, next⟩

abbrev Chain : Desk → Desk → Prop := Relation.ReflTransGen Step

theorem Step.chain {before after : Desk} (step : Step before after) : Chain before after :=
  .single step

/-- The slots may be described by another function that finds no more. -/
theorem Step.restrict (desk : Desk) (slots : FetchTarget → Option OptionsSlot)
    (same : ∀ target found, slots target = some found → desk.slots target = some found) :
    Step desk ⟨slots, desk.pending, desk.next⟩ :=
  .blank slots desk.next (Nat.le_refl _) fun target found there => Or.inl (same target found there)

theorem Step.pending_subset {before after : Desk} (step : Step before after) :
    before.pending ⊆ after.pending := by
  cases step with
  | issue => exact List.subset_append_left _ _
  | blank => exact List.Subset.refl _

theorem Chain.pending_subset {before after : Desk} (chain : Chain before after) :
    before.pending ⊆ after.pending := by
  induction chain with
  | refl => exact List.Subset.refl _
  | tail _ step ih => exact List.Subset.trans ih step.pending_subset

/-- A request on the slot of a target is one step. Where there is no slot, an empty one is asked. -/
theorem Step.of_requested {desk : Desk} {slots : FetchTarget → Option OptionsSlot}
    {slot after : OptionsSlot} (target : FetchTarget) {function : String}
    {args : Option (List Json)} {outcome : RequestOutcome}
    (there : slot = (desk.slots target).getD .empty)
    (requested : slot.Requested desk.next target function args after outcome)
    (others : ∀ other found, slots other = some found →
      other = target ∧ found = after ∨ other ≠ target ∧ desk.slots other = some found) :
    Step desk ⟨slots, desk.pending ++ outcome.ticket?.toList, desk.next + 1⟩ := by
  have present {wanted : List Json} (same : (slot.requestedFor == some wanted) = true) :
      desk.slots target = some slot := by
    cases found : desk.slots target with
    | none =>
        rw [found, Option.getD_none] at there
        subst slot
        cases same
    | some old =>
        rw [found, Option.getD_some] at there
        rw [there]
  cases requested with
  | kept wanted _ same =>
      have noTicket : RequestOutcome.unchanged.ticket? = none := rfl
      rw [noTicket, Option.toList_none, List.append_nil]
      refine .blank slots _ (Nat.le_succ _) ?_
      intro other found isThere
      rcases others other found isThere with ⟨rfl, rfl⟩ | ⟨_, old⟩
      · exact Or.inl (present same)
      · exact Or.inl old
  | emptied _ _ told =>
      have noTicket : outcome.ticket? = none := by
        rw [told]
        split <;> rfl
      rw [noTicket, Option.toList_none, List.append_nil]
      refine .blank slots _ (Nat.le_succ _) ?_
      intro other found isThere
      rcases others other found isThere with ⟨_, isEmpty⟩ | ⟨_, old⟩
      · exact Or.inr ⟨desk.next, isEmpty, Or.inr ⟨Nat.le_refl _, Nat.lt_succ_self _⟩⟩
      · exact Or.inl old
  | issued wanted _ _ waiting current isFor options =>
      refine .issue ⟨target, desk.next, function, wanted⟩ after slots rfl current waiting isFor
        ?_ others
      rcases options with nothing | ⟨kept, same⟩
      · exact Or.inl nothing
      · exact Or.inr ⟨slot, present same, kept, same⟩

end Desk

/-! ### Slots of a store -/

namespace Store

theorem slotAt?_putSlot (store : Store) (key : String) (slot : OptionsSlot)
    (target : FetchTarget) :
    (store.putSlot key slot).slotAt? target =
      if target = .field key then some slot else store.slotAt? target := by
  cases target with
  | field path =>
      simp only [slotAt?, slot?, putSlot, Keyed.find?_put, FetchTarget.field.injEq]
  | flowStep path step => rfl

theorem slotAt?_putFlow (store : Store) (key : String) (state : FlowState)
    (target : FetchTarget) :
    (store.putFlow key state).slotAt? target =
      match target with
      | .field path => store.slotAt? (.field path)
      | .flowStep path step =>
        if path = key then (state.step? step).map FlowStepState.slot
        else store.slotAt? (.flowStep path step) := by
  cases target with
  | field path => rfl
  | flowStep path step =>
      simp only [slotAt?, flow?, putFlow, Keyed.find?_put]
      by_cases same : path = key
      · simp only [if_pos same]
      · simp only [if_neg same]

private theorem slotAt?_putStep (store : Store) (path step : String) (state : FlowState)
    (current : FlowStepState) (present : store.flow? path = some state) (target : FetchTarget) :
    (store.putFlow path ⟨state.steps.put step current⟩).slotAt? target =
      if target = .flowStep path step then some current.slot else store.slotAt? target := by
  rw [slotAt?_putFlow]
  cases target with
  | field other => rfl
  | flowStep other name =>
      dsimp only
      by_cases here : other = path
      · subst other
        rw [if_pos rfl, FlowState.step?, Keyed.find?_put]
        by_cases same : name = step
        · subst name
          rw [if_pos rfl, if_pos rfl, Option.map_some]
        · rw [if_neg same, if_neg (by simp [same])]
          simp only [slotAt?, present, FlowState.step?]
      · rw [if_neg here, if_neg (by simp [here])]

theorem complete_put {store after : Store} {ticket : Ticket} {result : FetchResult}
    (taken : store.complete ticket result = some after) :
    (∃ key old slot, store.slot? key = some old ∧ after = store.putSlot key slot) ∨
      ∃ key old state, store.flow? key = some old ∧ after = store.putFlow key state := by
  unfold complete at taken
  cases isTarget : ticket.target with
  | field path =>
      simp only [isTarget, completeSlot, Option.bind_eq_bind, Option.bind_eq_some_iff,
        Option.some.injEq] at taken
      obtain ⟨old, isThere, completed, _, isPut⟩ := taken
      exact Or.inl ⟨path, old, completed, isThere, isPut.symm⟩
  | flowStep path step =>
      simp only [isTarget, Option.bind_eq_bind, Option.bind_eq_some_iff,
        Option.some.injEq] at taken
      obtain ⟨old, isThere, completed, _, isPut⟩ := taken
      exact Or.inr ⟨path, old, completed, isThere, isPut.symm⟩

/-- An answer that is taken replaces the slot of its target and nothing else among the slots. -/
theorem complete_eq_some {store after : Store} {ticket : Ticket} {result : FetchResult}
    (taken : store.complete ticket result = some after) :
    ∃ slot completed, store.slotAt? ticket.target = some slot ∧
      slot.complete ticket result = some completed ∧
      ∀ other, after.slotAt? other =
        if other = ticket.target then some completed else store.slotAt? other := by
  unfold complete at taken
  cases isTarget : ticket.target with
  | field path =>
      simp only [isTarget, completeSlot, Option.bind_eq_bind, Option.bind_eq_some_iff,
        Option.some.injEq] at taken
      obtain ⟨slot, isThere, completed, answered, rfl⟩ := taken
      exact ⟨slot, completed, isThere, answered, slotAt?_putSlot store path completed⟩
  | flowStep path step =>
      simp only [isTarget, FlowState.complete, Option.bind_eq_bind, Option.bind_eq_some_iff,
        Option.some.injEq] at taken
      obtain ⟨state, present, _, ⟨current, isThere, completed, answered, rfl⟩, rfl⟩ := taken
      refine ⟨current.slot, completed, ?_, answered, ?_⟩
      · simp only [slotAt?, present, isThere, Option.map_some]
      · exact slotAt?_putStep store path step state { current with slot := completed } present

theorem complete_eq_none {store : Store} {ticket : Ticket} {result : FetchResult}
    (refused : store.complete ticket result = none) (slot : OptionsSlot)
    (isThere : store.slotAt? ticket.target = some slot) : slot.generation ≠ ticket.generation := by
  intro same
  obtain ⟨completed, answered⟩ : ∃ completed, slot.complete ticket result = some completed := by
    refine Option.ne_none_iff_exists'.mp ?_
    intro none
    exact (slot.complete_eq_none_iff ticket result).mp none same.symm
  cases isTarget : ticket.target with
  | field path =>
      have there : store.slot? path = some slot := by
        rw [isTarget] at isThere
        exact isThere
      simp only [complete, isTarget, completeSlot, there, answered, Option.bind_eq_bind,
        Option.bind_some] at refused
      cases refused
  | flowStep path step =>
      rw [isTarget] at isThere
      cases present : store.flow? path with
      | none =>
          simp only [slotAt?, present] at isThere
          cases isThere
      | some state =>
          simp only [slotAt?, present, Option.map_eq_some_iff] at isThere
          obtain ⟨current, there, rfl⟩ := isThere
          simp only [complete, isTarget, present, FlowState.complete, there, answered,
            Option.bind_eq_bind, Option.bind_some] at refused
          cases refused

theorem slotAt?_congr {left right : Store} (slots : left.slots = right.slots)
    (flows : left.flows = right.flows) : left.slotAt? = right.slotAt? := by
  funext target
  cases target with
  | field path => simp only [slotAt?, slot?, slots]
  | flowStep path step => simp only [slotAt?, flow?, flows]

end Store

namespace Engine

open Desk

theorem desk_congr {left right : Engine} (slots : left.store.slots = right.store.slots)
    (flows : left.store.flows = right.store.flows) (pending : left.pending = right.pending)
    (next : left.next = right.next) : left.desk = right.desk := by
  simp only [desk, Store.slotAt?_congr slots flows, pending, next]

/-! ### Options of fields -/

theorem requestOptions_step (engine : Engine) (key : String) (source : OptionsSource)
    (args : Option (List Json)) (force : Bool) :
    Step engine.desk (engine.requestOptions key source args force).1.desk := by
  refine Step.of_requested (.field key) rfl
    ((engine.store.slotOrEmpty key).request_requested engine.next (.field key) source args force)
    ?_
  intro other found isThere
  rw [show (engine.requestOptions key source args force).1.store.slotAt? other =
    if other = .field key then some _ else engine.store.slotAt? other from
      engine.store.slotAt?_putSlot key _ other] at isThere
  by_cases same : other = .field key
  · rw [if_pos same, Option.some.injEq] at isThere
    exact Or.inl ⟨same, isThere.symm⟩
  · rw [if_neg same] at isThere
    exact Or.inr ⟨same, isThere⟩

/-! ### Steps of flows -/

private theorem slotAt?_takeProgress (engine : Engine) (key : String) (progress : FlowProgress)
    (target : FetchTarget) :
    (engine.takeProgress key progress).desk.slots target =
      match target with
      | .field path => engine.store.slotAt? (.field path)
      | .flowStep path step =>
        if path = key then (progress.state.step? step).map FlowStepState.slot
        else engine.store.slotAt? (.flowStep path step) :=
  engine.store.slotAt?_putFlow key progress.state target

/-- Two states of a flow that differ in one step give slots that differ in one target. -/
private theorem slotAt?_takeProgress_put (engine : Engine) (key id : String)
    (before after : FlowProgress) (step : FlowStepState)
    (put : after.state.steps = before.state.steps.put id step) (other : FetchTarget)
    (found : OptionsSlot)
    (isThere : (engine.takeProgress key after).desk.slots other = some found) :
    other = .flowStep key id ∧ found = step.slot ∨
      other ≠ .flowStep key id ∧
        (engine.takeProgress key before).desk.slots other = some found := by
  rw [slotAt?_takeProgress] at isThere ⊢
  cases other with
  | field path => exact Or.inr ⟨by simp, isThere⟩
  | flowStep path name =>
      dsimp only at isThere ⊢
      by_cases here : path = key
      · subst path
        rw [if_pos rfl, FlowState.step?, put, Keyed.find?_put] at isThere
        rw [if_pos rfl]
        by_cases same : name = id
        · subst name
          rw [if_pos rfl, Option.map_some, Option.some.injEq] at isThere
          exact Or.inl ⟨rfl, isThere.symm⟩
        · rw [if_neg same] at isThere
          exact Or.inr ⟨by simp [same], isThere⟩
      · rw [if_neg here] at isThere ⊢
        exact Or.inr ⟨by simp [here], isThere⟩

theorem takeProgress_request_chain (engine : Engine) (key : String) (progress : FlowProgress)
    (step : FlowStep) (args : List Json) :
    Chain (engine.takeProgress key progress).desk
      (engine.takeProgress key (progress.request key step args)).desk := by
  cases found : progress.state.step? step.id with
  | none =>
      rw [FlowProgress.request, found]
  | some current =>
      have present : (engine.takeProgress key progress).desk.slots (.flowStep key step.id) =
          some current.slot := by
        rw [slotAt?_takeProgress]
        dsimp only
        rw [if_pos rfl, found, Option.map_some]
      have requested : progress.request key step args =
          { state := ⟨progress.state.steps.put step.id { current with slot :=
              (current.slot.request progress.next (.flowStep key step.id) step.optionsSource
                (some args) true).1 }⟩
            tickets := progress.tickets ++
              (current.slot.request progress.next (.flowStep key step.id) step.optionsSource
                (some args) true).2.ticket?.toList
            next := progress.next + 1 } := by
        rw [FlowProgress.request, found]
      have others := slotAt?_takeProgress_put engine key step.id progress
        (progress.request key step args) _ (by rw [requested])
      have one := Step.of_requested (.flowStep key step.id) (by rw [present, Option.getD_some])
        (current.slot.request_requested progress.next (.flowStep key step.id) step.optionsSource
          (some args) true) others
      rw [requested] at one ⊢
      simpa only [desk, takeProgress, List.append_assoc] using one.chain

theorem takeProgress_clear_chain (engine : Engine) (key : String) (progress : FlowProgress)
    (id : String) :
    Chain (engine.takeProgress key progress).desk
      (engine.takeProgress key (progress.clear id)).desk := by
  refine Step.chain (.blank _ _ (Nat.le_succ _) ?_)
  intro other found isThere
  cases present : progress.state.step? id with
  | none =>
      have same : (progress.clear id).state = progress.state := by
        simp only [FlowProgress.clear, FlowState.modifyStep, present]
      change (engine.takeProgress key (progress.clear id)).desk.slots other = some found at isThere
      rw [slotAt?_takeProgress, same] at isThere
      exact Or.inl ((slotAt?_takeProgress engine key progress other).trans isThere)
  | some current =>
      have put : (progress.clear id).state.steps =
          progress.state.steps.put id ⟨"", current.slot.reset progress.next⟩ := by
        simp only [FlowProgress.clear, FlowState.modifyStep, present]
      rcases slotAt?_takeProgress_put engine key id progress (progress.clear id) _ put other found
        isThere with ⟨_, isReset⟩ | ⟨_, old⟩
      · exact Or.inr ⟨progress.next, isReset, Or.inr ⟨Nat.le_refl _, Nat.lt_succ_self _⟩⟩
      · exact Or.inl old

private theorem foldl_clear_chain (engine : Engine) (key : String) (steps : List FlowStep)
    (progress : FlowProgress) :
    Chain (engine.takeProgress key progress).desk (engine.takeProgress key
      (steps.foldl (fun progress step => progress.clear step.id) progress)).desk := by
  induction steps generalizing progress with
  | nil => exact .refl
  | cons step rest ih => exact (takeProgress_clear_chain engine key progress step.id).trans (ih _)

private theorem foldl_request_chain (engine : Engine) (key : String)
    (args : FlowStep → List Json) (steps : List FlowStep) (progress : FlowProgress) :
    Chain (engine.takeProgress key progress).desk (engine.takeProgress key
      (steps.foldl (fun progress step => progress.request key step (args step))
        progress)).desk := by
  induction steps generalizing progress with
  | nil => exact .refl
  | cons step rest ih =>
      exact (takeProgress_request_chain engine key progress step (args step)).trans (ih _)

theorem takeProgress_same_step (engine : Engine) (key : String)
    (state state' : FlowState) (present : engine.store.flow? key = some state)
    (same : ∀ id,
      (state'.step? id).map FlowStepState.slot = (state.step? id).map FlowStepState.slot) :
    Step engine.desk (engine.takeProgress key ⟨state', [], engine.next⟩).desk := by
  have noTickets : (engine.takeProgress key ⟨state', [], engine.next⟩).pending = engine.pending :=
    List.append_nil _
  simp only [desk, noTickets]
  refine Step.restrict engine.desk _ ?_
  intro target found isThere
  change (engine.takeProgress key ⟨state', [], engine.next⟩).desk.slots target = some found
    at isThere
  rw [slotAt?_takeProgress] at isThere
  cases target with
  | field path => exact isThere
  | flowStep path id =>
      dsimp only at isThere
      by_cases here : path = key
      · subst path
        rw [if_pos rfl, same] at isThere
        simpa only [desk, Store.slotAt?, present] using isThere
      · rw [if_neg here] at isThere
        exact isThere

private theorem modifyStep_slot (state : FlowState) (id value : String) (name : String) :
    ((state.modifyStep id fun step => { step with value }).step? name).map FlowStepState.slot =
      (state.step? name).map FlowStepState.slot := by
  unfold FlowState.modifyStep
  split
  · rename_i step found
    simp only [FlowState.step?, Keyed.find?_put]
    by_cases same : name = id
    · subst name
      rw [if_pos rfl, show state.steps.find? id = some step from found]
      rfl
    · rw [if_neg same]
  · rfl

theorem choose_chain (engine : Engine) (flow : Flow) (key : String) (state : FlowState)
    (index : Nat) (id value : String) (scope : Scope)
    (present : engine.store.flow? key = some state) :
    Chain engine.desk (engine.takeProgress key
      (flow.choose key state index id value scope engine.next)).desk := by
  have chosen := takeProgress_same_step engine key state _ present (modifyStep_slot state id value)
  have emptied := chosen.chain.trans
    (foldl_clear_chain engine key (flow.steps.drop (index + 1)) _)
  unfold Flow.choose
  dsimp only
  split
  · exact emptied
  · exact emptied.trans (foldl_request_chain engine key _ _ _)

private theorem find?_putAll_empty (steps : List FlowStep) (table : Keyed FlowStepState)
    (id : String) (found : FlowStepState)
    (isThere : Keyed.find? id
      (Keyed.putAll (steps.map fun step => (step.id, FlowStepState.empty)) table) = some found) :
    found = .empty ∨ Keyed.find? id table = some found := by
  induction steps generalizing table with
  | nil => exact Or.inr isThere
  | cons step rest ih =>
      rcases ih (table.put step.id .empty) isThere with empty | earlier
      · exact Or.inl empty
      · rw [Keyed.find?_put] at earlier
        by_cases same : id = step.id
        · rw [if_pos same, Option.some.injEq] at earlier
          exact Or.inl earlier.symm
        · rw [if_neg same] at earlier
          exact Or.inr earlier

theorem start_chain (engine : Engine) (flow : Flow) (key : String) (scope : Scope) :
    Chain engine.desk
      (engine.takeProgress key (flow.start key scope engine.next)).desk := by
  let fresh : FlowProgress :=
    ⟨⟨Keyed.ofList (flow.steps.map fun step => (step.id, .empty))⟩, [], engine.next⟩
  have started : Chain engine.desk (engine.takeProgress key fresh).desk := by
    have noTickets : (engine.takeProgress key fresh).pending = engine.pending :=
      List.append_nil _
    simp only [desk, noTickets]
    refine Step.chain (.blank _ _ (Nat.le_refl _) ?_)
    intro target found isThere
    change (engine.takeProgress key fresh).desk.slots target = some found at isThere
    rw [slotAt?_takeProgress] at isThere
    cases target with
    | field path => exact Or.inl isThere
    | flowStep path id =>
        dsimp only at isThere
        by_cases here : path = key
        · rw [if_pos here, Option.map_eq_some_iff] at isThere
          obtain ⟨step, member, isSlot⟩ := isThere
          rcases find?_putAll_empty _ [] id step member with empty | impossible
          · subst step
            exact Or.inr ⟨0, isSlot.symm, Or.inl rfl⟩
          · cases impossible
        · rw [if_neg here] at isThere
          exact Or.inl isThere
  unfold Flow.start
  dsimp only
  split
  · exact started
  · split
    · exact started.trans (takeProgress_request_chain _ _ _ _ _)
    · exact started

end Engine

end DeclarativeForm
