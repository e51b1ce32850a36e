import DeclarativeForm.Proofs.Sync.Quiet
import DeclarativeForm.Proofs.Sync.Rest

/-!
Bringing an engine up to date that is up to date. Every flow has a state, so none is started, and
every binding is asked for with the arguments of the request before. Only slots are touched; they
keep their options, and the tickets that are issued go to the end of the queue.
-/

set_option autoImplicit false

namespace DeclarativeForm

namespace Engine

variable {engine : Engine}

/-! ### States of flows -/

def Started (engine : Engine) : Prop :=
  ∀ place ∈ flowPlaces engine.form.fields engine.values,
    (engine.store.flow? place.path.text).isSome = true

private theorem foldl_syncFlow_rests (places : List FlowPlace) (engine : Engine) :
    engine.Rests (places.foldl syncFlow engine) := by
  induction places generalizing engine with
  | nil => exact .refl engine
  | cons place rest ih => exact (engine.syncFlow_rests place).trans (ih _)

private theorem foldl_syncFlow_flows (places : List FlowPlace) (engine : Engine) :
    ∀ place ∈ places,
      ((places.foldl syncFlow engine).store.flow? place.path.text).isSome = true := by
  induction places generalizing engine with
  | nil => exact fun _ member => nomatch member
  | cons first rest ih =>
      intro place member
      rcases List.mem_cons.mp member with rfl | later
      · exact (foldl_syncFlow_rests rest _).flows _ (engine.syncFlow_flow place)
      · exact ih _ place later

theorem syncFlows_started (engine : Engine) : engine.syncFlows.Started := by
  have rests : engine.Rests engine.syncFlows := foldl_syncFlow_rests _ engine
  intro place member
  rw [rests.form, rests.values] at member
  exact foldl_syncFlow_flows _ engine place member

theorem syncPass_flows (touched : Option String) (engine : Engine)
    (bindings : List OptionBinding) :
    (syncPass touched engine bindings).1.store.flows = engine.store.flows := by
  have cleared := foldl_applyClearing_keeps Store.flows (fun _ _ _ => rfl)
    (bindings.foldl (requestBinding touched) (engine, [])).2
    ((bindings.foldl (requestBinding touched) (engine, [])).1.store, false)
  exact cleared.trans (foldl_requestBinding_keep (fun after => after.store.flows =
    engine.store.flows) (fun _ _ _ same => same) rfl)

theorem syncPasses_flows (touched : Option String) (fuel passes : Nat) (engine : Engine) :
    (syncPasses touched fuel passes engine).store.flows = engine.store.flows :=
  syncPasses_keep (fun after => after.store.flows = engine.store.flows) (fun _ _ => id)
    (fun other => (syncPass_flows touched other _).trans) fuel passes rfl

private theorem foldl_applyClearing_errors (clearings : List Clearing) (state : Store × Bool) :
    (clearings.foldl applyClearing state).1.errors.Sublist state.1.errors := by
  induction clearings generalizing state with
  | nil => exact List.Sublist.refl _
  | cons clearing rest ih =>
      have here : (applyClearing state clearing).1.errors.Sublist state.1.errors := by
        unfold applyClearing
        repeat' split
        all_goals first
          | exact List.Sublist.refl _
          | exact Keyed.erase_sublist _ _
      exact (ih _).trans here

theorem foldl_requestBinding_errors (touched : Option String) (bindings : List OptionBinding)
    (state : Engine × List Clearing) :
    (bindings.foldl (requestBinding touched) state).1.store.errors = state.1.store.errors :=
  foldl_requestBinding_keep (fun after => after.store.errors = state.1.store.errors)
    (fun _ _ _ same => same) rfl

theorem syncPass_errors (touched : Option String) (engine : Engine)
    (bindings : List OptionBinding) :
    (syncPass touched engine bindings).1.store.errors.Sublist engine.store.errors := by
  have cleared := foldl_applyClearing_errors
    (bindings.foldl (requestBinding touched) (engine, [])).2
    ((bindings.foldl (requestBinding touched) (engine, [])).1.store, false)
  rw [foldl_requestBinding_errors] at cleared
  exact cleared

theorem syncPasses_errors (touched : Option String) (fuel passes : Nat) (engine : Engine) :
    (syncPasses touched fuel passes engine).store.errors.Sublist engine.store.errors :=
  syncPasses_keep (fun after => after.store.errors.Sublist engine.store.errors) (fun _ _ => id)
    (fun other => (syncPass_errors touched other _).trans) fuel passes (List.Sublist.refl _)

theorem syncFlows_errors (engine : Engine) :
    engine.syncFlows.store.errors = engine.store.errors := by
  refine syncFlows_keep (fun after => after.store.errors = engine.store.errors) ?_ rfl
  intro other place _ same
  unfold syncFlow
  dsimp only
  split <;> exact same

/-- Bringing fields up to date finds no errors; those of fields that are cleared go. -/
theorem refreshDerived_errors (engine : Engine) (touched : Option String) :
    (engine.refreshDerived touched).store.errors.Sublist engine.store.errors := by
  rw [← engine.syncFlows_errors]
  exact syncPasses_errors touched _ 0 engine.syncFlows

theorem refreshDerived_started (touched : Option String) (named : WellNamed engine.form.fields) :
    (engine.refreshDerived touched).Started := by
  have form := (syncFlows_works engine).form
  have started := engine.syncFlows_started
  have namedStill : WellNamed engine.syncFlows.form.fields := form ▸ named
  have within := @syncPasses_within engine.syncFlows touched engine.syncFlows.passBound 0 namedStill
  have formAfter := (syncPasses_works touched engine.syncFlows.passBound 0 engine.syncFlows).form
  intro place member
  have flows := syncPasses_flows touched engine.syncFlows.passBound 0 engine.syncFlows
  rw [refreshDerived, syncOptions, Store.flow?, flows]
  rw [refreshDerived, syncOptions, formAfter, flowPlaces, within.shape] at member
  exact started place member

theorem Started.syncFlows_eq (started : engine.Started) : engine.syncFlows = engine := by
  unfold Started at started
  unfold syncFlows
  generalize flowPlaces engine.form.fields engine.values = places at started
  induction places with
  | nil => rfl
  | cons place rest ih =>
      have here : engine.syncFlow place = engine := by
        obtain ⟨state, present⟩ :=
          Option.isSome_iff_exists.mp (started place List.mem_cons_self)
        simp only [syncFlow, present]
      rw [List.foldl_cons, here]
      exact ih fun other member => started other (List.mem_cons_of_mem _ member)

/-! ### Requests for the same arguments -/

/-- Options were asked for again: slots keep their options, and tickets may have been queued. -/
structure Repeats (before after : Engine) : Prop where
  store : after.store = { before.store with slots := after.store.slots }
  slots : Keyed.Related OptionsSlot.Keeps before.store.slots after.store.slots
  pending : ∃ fresh, after.pending = before.pending ++ fresh ∧
    ∀ ticket ∈ fresh, before.next ≤ ticket.generation
  next : before.next ≤ after.next

namespace Repeats

variable {first second third : Engine}

theorem refl (engine : Engine) : engine.Repeats engine where
  store := rfl
  slots := .refl OptionsSlot.Keeps.refl _
  pending := ⟨[], (List.append_nil _).symm, fun _ member => nomatch member⟩
  next := Nat.le_refl _

theorem trans (one : first.Repeats second) (two : second.Repeats third) :
    first.Repeats third where
  store := by
    rw [two.store, one.store]
  slots := one.slots.trans two.slots fun _ _ _ => OptionsSlot.Keeps.trans
  pending := by
    obtain ⟨early, queued, earlyFresh⟩ := one.pending
    obtain ⟨late, queuedLate, lateFresh⟩ := two.pending
    refine ⟨early ++ late, ?_, fun ticket member => ?_⟩
    · rw [queuedLate, queued, List.append_assoc]
    · rcases List.mem_append.mp member with isEarly | isLate
      · exact earlyFresh ticket isEarly
      · exact Nat.le_trans one.next (lateFresh ticket isLate)
  next := Nat.le_trans one.next two.next

theorem keeps {α : Type} (repeats : first.Repeats second) (read : Store → α)
    (same : ∀ store slots, read { store with slots } = read store) :
    read second.store = read first.store := by
  rw [repeats.store]
  exact same _ _

theorem emitChange (repeats : first.Repeats second) : first.Repeats second.emitChange :=
  ⟨repeats.store, repeats.slots, repeats.pending, repeats.next⟩

end Repeats

theorem note_repeats (engine : Engine) (notices : List Notice) :
    engine.Repeats (engine.note notices) :=
  ⟨rfl, .refl OptionsSlot.Keeps.refl _, (Repeats.refl engine).pending, Nat.le_refl _⟩

theorem Asked.repeats {touched : Option String} {binding : OptionBinding}
    (asked : engine.Asked binding) (sound : engine.SoundSlots) :
    engine.Repeats (engine.askFor touched binding) where
  store := rfl
  slots := by
    obtain ⟨slot, isThere, same⟩ := asked
    have isSlot : engine.store.slotOrEmpty binding.key = slot := by
      rw [Store.slotOrEmpty, isThere]
      rfl
    refine (Keyed.Related.refl OptionsSlot.Keeps.refl _).put_right isThere fun before keeps => ?_
    have again := OptionsSlot.request_keeps slot engine.next (.field binding.key) binding.source
      binding.args (isForced touched binding) (isSlot ▸ sound binding.key) same
    rw [isSlot]
    exact keeps.trans again
  pending := ⟨_, rfl, fun ticket member => Nat.le_of_eq (OptionsSlot.mem_ticket member).2.symm⟩
  next := Nat.le_succ _

theorem foldl_askFor_repeats {touched : Option String} (bindings : List OptionBinding)
    (unique : ∀ one ∈ bindings, ∀ two ∈ bindings, one.key = two.key → one = two)
    (sound : engine.SoundSlots) (asked : ∀ binding ∈ bindings, engine.Asked binding) :
    engine.Repeats
      (bindings.foldl (fun engine binding => engine.askFor touched binding) engine) := by
  induction bindings generalizing engine with
  | nil => exact .refl engine
  | cons first rest ih =>
      have here := asked first List.mem_cons_self
      have later := ih
        (fun one member two other =>
          unique one (List.mem_cons_of_mem _ member) two (List.mem_cons_of_mem _ other))
        (engine.askFor_sound touched first sound)
        fun binding member => (asked binding (List.mem_cons_of_mem _ member)).askFor engine touched
          first (unique first List.mem_cons_self binding (List.mem_cons_of_mem _ member))
      exact (here.repeats sound).trans later

/-- Bringing up to date what is up to date asks for options again and does nothing else. -/
theorem Settled.refreshDerived_repeats (settled : engine.Settled) (started : engine.Started)
    (sound : engine.SoundSlots) (named : WellNamed engine.form.fields)
    (touched : Option String) : engine.Repeats (engine.refreshDerived touched) := by
  have noted := engine.note_repeats (optionBindingNotices engine.form.fields engine.values)
  rw [refreshDerived, started.syncFlows_eq, settled.syncOptions_eq sound named touched]
  refine noted.trans (foldl_askFor_repeats engine.bindings ?_ sound settled)
  exact fun one member two other => eq_of_key_eq named member other

end Engine

theorem Session.Reachable.started {mounting : Engine.Mounting} {session : Session}
    (reachable : Reachable mounting session) (named : WellNamed mounting.form.fields) :
    session.engine.Started := by
  apply reachable.derived named Engine.Started
  · intro engine touched form
    rw [← form] at named
    exact Engine.refreshDerived_started touched named
  · intro before after rests started place member
    rw [rests.form, rests.values] at member
    exact rests.flows _ (started place member)

end DeclarativeForm
