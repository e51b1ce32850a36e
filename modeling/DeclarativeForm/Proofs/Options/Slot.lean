import DeclarativeForm.Engine.Sync
import DeclarativeForm.Proofs.Json.Equality

/-!
What a request and an answer do to a slot. A request keeps the slot, empties it, or issues a ticket
of its own generation; afterwards the slot is requested for the arguments of the request in every
case. A slot that was requested for nothing holds nothing, and then the outcome of a request says
whether the arguments changed without regard to what has been fetched.
-/

set_option autoImplicit false

namespace DeclarativeForm.OptionsSlot

def Sound (slot : OptionsSlot) : Prop :=
  slot.requestedFor = none → slot.loading = false ∧ slot.options = [] ∧ slot.loadedFor = none

theorem sound_ofGeneration (generation : Nat) : (ofGeneration generation).Sound :=
  fun _ => ⟨rfl, rfl, rfl⟩

theorem sound_of_requestedFor {slot : OptionsSlot} {args : List Json}
    (requested : slot.requestedFor = some args) : slot.Sound := by
  intro absent
  rw [requested] at absent
  cases absent

theorem Sound.holdsState {slot : OptionsSlot} (sound : slot.Sound) :
    slot.holdsState = slot.requestedFor.isSome := by
  cases requested : slot.requestedFor with
  | none =>
      obtain ⟨idle, nothing, _⟩ := sound requested
      simp [OptionsSlot.holdsState, requested, idle, nothing]
  | some args => simp [OptionsSlot.holdsState, requested]

/-- The options and the arguments of a slot are as before; it may wait for another ticket. -/
structure Keeps (before after : OptionsSlot) : Prop where
  options : after.options = before.options
  requestedFor : (after.requestedFor == before.requestedFor) = true
  loadedFor : after.loadedFor = before.loadedFor

theorem Keeps.refl (slot : OptionsSlot) : slot.Keeps slot := ⟨rfl, BEq.rfl, rfl⟩

theorem Keeps.trans {first second third : OptionsSlot} (one : first.Keeps second)
    (two : second.Keeps third) : first.Keeps third where
  options := two.options.trans one.options
  requestedFor := BEq.trans two.requestedFor one.requestedFor
  loadedFor := two.loadedFor.trans one.loadedFor

inductive Requested (slot : OptionsSlot) (generation : Nat) (target : FetchTarget)
    (function : String) (args : Option (List Json)) : OptionsSlot → RequestOutcome → Prop
  | kept (wanted : List Json) (asked : args = some wanted)
      (same : (slot.requestedFor == some wanted) = true) :
      Requested slot generation target function args slot .unchanged
  | emptied (outcome : RequestOutcome) (absent : args = none)
      (told : outcome = if slot.holdsState then .cleared else .unchanged) :
      Requested slot generation target function args (ofGeneration generation) outcome
  | issued (wanted : List Json) (after : OptionsSlot) (asked : args = some wanted)
      (waiting : after.loading = true) (current : after.generation = generation)
      (requested : after.requestedFor = some wanted)
      (options : after.options = [] ∨
        after.options = slot.options ∧ (slot.requestedFor == some wanted) = true) :
      Requested slot generation target function args after
        (.issued ⟨target, generation, function, wanted⟩)

theorem request_requested (slot : OptionsSlot) (generation : Nat) (target : FetchTarget)
    (source : OptionsSource) (args : Option (List Json)) (force : Bool) :
    Requested slot generation target source.function args
      (slot.request generation target source args force).1
      (slot.request generation target source args force).2 := by
  cases args with
  | none => exact .emptied _ rfl rfl
  | some wanted =>
      simp only [request]
      split
      · rename_i kept
        simp only [Bool.and_eq_true] at kept
        exact .kept wanted rfl kept.1.2
      · refine .issued wanted _ rfl rfl rfl rfl ?_
        cases same : slot.requestedFor == some wanted with
        | false => exact Or.inl rfl
        | true => exact Or.inr ⟨rfl, rfl⟩

theorem mem_ticket {slot : OptionsSlot} {generation : Nat} {target : FetchTarget}
    {source : OptionsSource} {args : Option (List Json)} {force : Bool} {ticket : Ticket}
    (member : ticket ∈ (slot.request generation target source args force).2.ticket?.toList) :
    ticket.target = target ∧ ticket.generation = generation := by
  have reached := slot.request_requested generation target source args force
  generalize slot.request generation target source args force = result at reached member
  obtain ⟨after, outcome⟩ := result
  cases reached with
  | kept => cases member
  | emptied _ absent told =>
      rw [told] at member
      split at member <;> cases member
  | issued wanted _ asked waiting current requested options =>
      cases List.mem_singleton.mp member
      exact ⟨rfl, rfl⟩

section Requests

variable (slot : OptionsSlot) (generation : Nat) (target : FetchTarget) (source : OptionsSource)
  (args : Option (List Json)) (force : Bool)

theorem request_requestedFor :
    ((slot.request generation target source args force).1.requestedFor == args) = true := by
  have reached := request_requested slot generation target source args force
  generalize slot.request generation target source args force = result at reached ⊢
  obtain ⟨after, outcome⟩ := result
  cases reached with
  | kept wanted asked same =>
      rw [asked]
      exact same
  | emptied _ absent =>
      rw [absent]
      rfl
  | issued wanted after asked _ _ requested =>
      rw [requested, asked]
      exact BEq.rfl

theorem request_sound (sound : slot.Sound) :
    (slot.request generation target source args force).1.Sound := by
  have reached := request_requested slot generation target source args force
  generalize slot.request generation target source args force = result at reached ⊢
  obtain ⟨after, outcome⟩ := result
  cases reached with
  | kept => exact sound
  | emptied => exact sound_ofGeneration generation
  | issued wanted after asked _ _ requested => exact sound_of_requestedFor requested

/-- Whether the arguments have changed does not depend on what was fetched: the outcome of a
request tells the same as comparing the arguments with those of the request before. -/
theorem dependencyChanged_request (sound : slot.Sound) :
    Engine.dependencyChanged slot.requestedFor args
        (slot.request generation target source args force).2 =
      (slot.requestedFor.isSome && slot.requestedFor != args) := by
  have reached := request_requested slot generation target source args force
  generalize slot.request generation target source args force = result at reached ⊢
  obtain ⟨after, outcome⟩ := result
  cases reached with
  | kept wanted asked same =>
      rw [asked]
      simp only [Engine.dependencyChanged, bne, same, Bool.not_true, Bool.and_false]
  | emptied _ absent told =>
      rw [absent, told, sound.holdsState]
      cases slot.requestedFor <;> rfl
  | issued => rfl

theorem request_keeps (sound : slot.Sound) (same : (slot.requestedFor == args) = true) :
    slot.Keeps (slot.request generation target source args force).1 := by
  cases args with
  | none =>
      have none : slot.requestedFor = none := by simpa using same
      obtain ⟨_, nothing, unloaded⟩ := sound none
      refine ⟨nothing.symm, ?_, unloaded.symm⟩
      rw [none]
      rfl
  | some wanted =>
      have requested := slot.request_requestedFor generation target source (some wanted) force
      refine ⟨?_, BEq.trans requested (BEq.symm same), ?_⟩
      all_goals
        simp only [request, same]
        split <;> rfl

theorem request_retains (sound : slot.Sound) :
    (slot.requestedFor == args) = true ∧
        (slot.request generation target source args force).1.options = slot.options ∧
        (slot.request generation target source args force).1.loadedFor = slot.loadedFor ∨
      (slot.request generation target source args force).1.options = [] ∧
        (slot.request generation target source args force).1.loadedFor = none := by
  cases same : slot.requestedFor == args with
  | true =>
      have keeps := slot.request_keeps generation target source args force sound same
      exact Or.inl ⟨rfl, keeps.options, keeps.loadedFor⟩
  | false =>
      refine Or.inr ?_
      cases args with
      | none => exact ⟨rfl, rfl⟩
      | some wanted => simp [request, same]

/-- With all arguments present and no force, a request issues nothing if it is for the arguments of
the last one and these are on their way or the source keeps its answers. -/
theorem request_unchanged_iff (wanted : List Json) :
    (slot.request generation target source (some wanted) false).2 = .unchanged ↔
      (slot.requestedFor == some wanted) = true ∧ (slot.loading = true ∨ source.caches = true) := by
  rw [← Bool.or_eq_true, ← Bool.and_eq_true]
  cases served : slot.requestedFor == some wanted && (slot.loading || source.caches) with
  | true => simp [request, served]
  | false => simp [request, served]

/-- A source that keeps its answers is asked exactly when the arguments are other ones. -/
theorem request_issues_iff (wanted : List Json) (caches : source.caches = true) :
    (slot.request generation target source (some wanted) false).2.ticket?.isSome = true ↔
      (slot.requestedFor == some wanted) = false := by
  cases same : slot.requestedFor == some wanted <;>
    simp [request, same, caches, RequestOutcome.ticket?]

end Requests

theorem complete_eq_some {slot after : OptionsSlot} {ticket : Ticket} {result : FetchResult}
    (taken : slot.complete ticket result = some after) :
    ticket.generation = slot.generation ∧ after.generation = slot.generation ∧
      after.requestedFor = slot.requestedFor ∧ after.loading = false ∧
      (after.options = [] ∨ result = .ok after.options) := by
  unfold complete at taken
  split at taken
  · cases taken
  · rename_i current
    refine ⟨Classical.not_not.mp current, ?_⟩
    cases result with
    | ok options =>
        cases taken
        exact ⟨rfl, rfl, rfl, Or.inr rfl⟩
    | error cause =>
        cases taken
        exact ⟨rfl, rfl, rfl, Or.inl rfl⟩

theorem complete_holds {slot after : OptionsSlot} {ticket : Ticket} {result : FetchResult}
    (taken : slot.complete ticket result = some after) :
    result = .ok after.options ∧ after.loadedFor = some ticket.args ∨
      (∃ cause, result = .error cause) ∧ after.options = [] ∧ after.loadedFor = none := by
  unfold complete at taken
  split at taken
  · cases taken
  · cases result with
    | ok options =>
        cases taken
        exact Or.inl ⟨rfl, rfl⟩
    | error cause =>
        cases taken
        exact Or.inr ⟨⟨cause, rfl⟩, rfl, rfl⟩

end DeclarativeForm.OptionsSlot
