import DeclarativeForm.Proofs.Keyed
import DeclarativeForm.Proofs.Sync.Binding

/-!
The requests of a pass. When different bindings have different keys, every binding has been asked
for after the requests with its own arguments, and the fields to be cleared are those whose options
were asked for with other arguments before.
-/

set_option autoImplicit false

namespace DeclarativeForm

def OptionBinding.clearing (binding : OptionBinding) : Engine.Clearing :=
  (binding.key, binding.field.clearedValue)

namespace Engine

def Asked (engine : Engine) (binding : OptionBinding) : Prop :=
  ∃ slot, engine.store.slot? binding.key = some slot ∧
    (slot.requestedFor == binding.args) = true

def SoundSlots (engine : Engine) : Prop := ∀ key, (engine.store.slotOrEmpty key).Sound

theorem Asked.slotOrEmpty {engine : Engine} {binding : OptionBinding}
    (asked : engine.Asked binding) :
    ((engine.store.slotOrEmpty binding.key).requestedFor == binding.args) = true := by
  obtain ⟨slot, isThere, same⟩ := asked
  rw [Store.slotOrEmpty, isThere]
  exact same

theorem Asked.congr {engine after : Engine} {binding : OptionBinding}
    (asked : engine.Asked binding) (slots : after.store.slots = engine.store.slots) :
    after.Asked binding := by
  obtain ⟨slot, isThere, same⟩ := asked
  refine ⟨slot, ?_, same⟩
  rw [Store.slot?, slots]
  exact isThere

theorem SoundSlots.congr {engine after : Engine} (sound : engine.SoundSlots)
    (slots : after.store.slots = engine.store.slots) : after.SoundSlots := by
  intro key
  rw [Store.slotOrEmpty, Store.slot?, slots]
  exact sound key

theorem Asked.clears {engine : Engine} {binding : OptionBinding}
    (asked : engine.Asked binding) : engine.clears binding = false := by
  have same := asked.slotOrEmpty
  simp only [Engine.clears, bne, same, Bool.not_true, Bool.and_false, Bool.false_and]

section Asking

variable (engine : Engine) (touched : Option String) (binding : OptionBinding)

theorem askFor_asked : (engine.askFor touched binding).Asked binding := by
  refine ⟨_, Keyed.find?_put_self binding.key _ _, ?_⟩
  exact OptionsSlot.request_requestedFor _ _ _ _ _ _

variable {key : String}

theorem slot?_askFor (different : key ≠ binding.key) :
    (engine.askFor touched binding).store.slot? key = engine.store.slot? key :=
  Keyed.find?_put_other different _ _

theorem slotOrEmpty_askFor (different : key ≠ binding.key) :
    (engine.askFor touched binding).store.slotOrEmpty key = engine.store.slotOrEmpty key := by
  rw [Store.slotOrEmpty, slot?_askFor engine touched binding different, Store.slotOrEmpty]

theorem askFor_sound (sound : engine.SoundSlots) :
    (engine.askFor touched binding).SoundSlots := by
  intro key
  by_cases same : key = binding.key
  · subst same
    have put : (engine.askFor touched binding).store.slot? binding.key = some
        ((engine.store.slotOrEmpty binding.key).request engine.next (.field binding.key)
          binding.source binding.args (isForced touched binding)).1 :=
      Keyed.find?_put_self binding.key _ _
    rw [Store.slotOrEmpty, put]
    exact OptionsSlot.request_sound _ _ _ _ _ _ (sound binding.key)
  · rw [slotOrEmpty_askFor engine touched binding same]
    exact sound key

theorem clears_askFor_other {other : OptionBinding} (different : other.key ≠ binding.key) :
    (engine.askFor touched binding).clears other = engine.clears other := by
  unfold clears
  rw [slotOrEmpty_askFor engine touched binding different]
  rfl

theorem Asked.askFor {other : OptionBinding} (asked : engine.Asked other)
    (unique : binding.key = other.key → binding = other) :
    (engine.askFor touched binding).Asked other := by
  by_cases same : binding.key = other.key
  · rw [unique same]
    exact engine.askFor_asked touched other
  · obtain ⟨slot, isThere, equal⟩ := asked
    exact ⟨slot, (slot?_askFor engine touched binding (Ne.symm same)).trans isThere, equal⟩

end Asking

/-- A request adds the field of its binding to those to be cleared, or nothing. -/
theorem requestBinding_cases (touched : Option String) (engine : Engine)
    (clearings : List Clearing) (binding : OptionBinding) :
    ∃ cleared : List OptionBinding,
      requestBinding touched (engine, clearings) binding =
        (engine.askFor touched binding, clearings ++ cleared.map OptionBinding.clearing) ∧
      (∀ other ∈ cleared, other = binding) ∧
      (engine.SoundSlots → (binding ∈ cleared ↔ engine.clears binding = true)) := by
  by_cases sound : (engine.store.slotOrEmpty binding.key).Sound
  · rw [requestBinding_eq touched engine clearings binding sound]
    by_cases clears : engine.clears binding = true
    · refine ⟨[binding], ?_, fun other member => List.mem_singleton.mp member, fun _ => ?_⟩
      · rw [if_pos clears]
        rfl
      · exact iff_of_true List.mem_cons_self clears
    · refine ⟨[], ?_, (fun _ member => nomatch member), fun _ => ?_⟩
      · rw [if_neg clears, List.map_nil, List.append_nil]
      · exact iff_of_false List.not_mem_nil clears
  · have chosen (statement : Prop) (allSound : engine.SoundSlots) : statement :=
      absurd (allSound binding.key) sound
    unfold requestBinding
    dsimp only
    split
    · exact ⟨[binding], rfl, fun other member => List.mem_singleton.mp member, chosen _⟩
    · refine ⟨[], ?_, (fun _ member => nomatch member), chosen _⟩
      rw [List.map_nil, List.append_nil]
      rfl

/-- What asking for some bindings does: they are asked for, and some fields are to be cleared. -/
structure AsksFor (engine : Engine) (bindings cleared : List OptionBinding) (after : Engine) :
    Prop where
  form : after.form = engine.form
  options : after.options = engine.options
  values : after.values = engine.values
  asked : ∀ binding ∈ bindings, after.Asked binding
  sound : engine.SoundSlots → after.SoundSlots
  subset : ∀ binding ∈ cleared, binding ∈ bindings
  chosen : engine.SoundSlots →
    ∀ binding ∈ bindings, binding ∈ cleared ↔ engine.clears binding = true

private theorem foldl_requestBinding_asked {touched : Option String} {binding : OptionBinding}
    (bindings : List OptionBinding)
    (unique : ∀ other ∈ bindings, other.key = binding.key → other = binding)
    (state : Engine × List Clearing) (asked : state.1.Asked binding) :
    (bindings.foldl (requestBinding touched) state).1.Asked binding := by
  induction bindings generalizing state with
  | nil => exact asked
  | cons first rest ih =>
      refine ih (fun other member => unique other (List.mem_cons_of_mem _ member)) _ ?_
      rw [requestBinding_engine]
      exact asked.askFor state.1 touched first (unique first List.mem_cons_self)

/-- Whether a binding is chosen does not depend on what was asked for before it. -/
private theorem chosen_cons {engine : Engine} {touched : Option String} {first : OptionBinding}
    {rest here later : List OptionBinding} (isFirst : ∀ other ∈ here, other = first)
    (chosen : first ∈ here ↔ engine.clears first = true) (subset : ∀ other ∈ later, other ∈ rest)
    (restChosen : ∀ other ∈ rest,
      other ∈ later ↔ (engine.askFor touched first).clears other = true)
    (keyIsFirst : ∀ other ∈ rest, other.key = first.key → other = first)
    {binding : OptionBinding} (member : binding ∈ first :: rest) :
    binding ∈ here ++ later ↔ engine.clears binding = true := by
  rw [List.mem_append]
  by_cases same : binding = first
  · subst same
    rw [← chosen]
    refine ⟨fun either => ?_, Or.inl⟩
    rcases either with isHere | isLater
    · exact isHere
    · have impossible := (restChosen binding (subset binding isLater)).mp isLater
      rw [(engine.askFor_asked touched binding).clears] at impossible
      cases impossible
  · have inRest := List.mem_of_ne_of_mem same member
    have different : binding.key ≠ first.key := fun equal => same (keyIsFirst binding inRest equal)
    rw [← engine.clears_askFor_other touched first different, ← restChosen binding inRest]
    refine ⟨fun either => ?_, Or.inr⟩
    rcases either with isHere | isLater
    · exact absurd (isFirst binding isHere) same
    · exact isLater

theorem foldl_requestBinding (touched : Option String) (bindings : List OptionBinding)
    (unique : ∀ one ∈ bindings, ∀ two ∈ bindings, one.key = two.key → one = two)
    (engine : Engine) (clearings : List Clearing) :
    ∃ cleared : List OptionBinding,
      (bindings.foldl (requestBinding touched) (engine, clearings)).2 =
        clearings ++ cleared.map OptionBinding.clearing ∧
      engine.AsksFor bindings cleared
        (bindings.foldl (requestBinding touched) (engine, clearings)).1 := by
  induction bindings generalizing engine clearings with
  | nil =>
      refine ⟨[], (List.append_nil _).symm, rfl, rfl, rfl, ?_, id, ?_, ?_⟩
      · exact fun _ member => nomatch member
      · exact fun _ member => nomatch member
      · exact fun _ _ member => nomatch member
  | cons first rest ih =>
      obtain ⟨here, step, isFirst, chosen⟩ :=
        requestBinding_cases touched engine clearings first
      have restUnique : ∀ one ∈ rest, ∀ two ∈ rest, one.key = two.key → one = two :=
        fun one member two other =>
          unique one (List.mem_cons_of_mem _ member) two (List.mem_cons_of_mem _ other)
      have keyIsFirst : ∀ other ∈ rest, other.key = first.key → other = first :=
        fun other member => unique other (List.mem_cons_of_mem _ member) first List.mem_cons_self
      rw [List.foldl_cons, step]
      obtain ⟨later, told, asks⟩ := ih restUnique (engine.askFor touched first)
        (clearings ++ here.map OptionBinding.clearing)
      refine ⟨here ++ later, ?_, asks.form, asks.options, asks.values, ?_, ?_, ?_, ?_⟩
      · rw [told, List.map_append, List.append_assoc]
      · intro binding member
        rcases List.mem_cons.mp member with rfl | inRest
        · exact foldl_requestBinding_asked rest keyIsFirst _ (engine.askFor_asked touched binding)
        · exact asks.asked binding inRest
      · exact fun sound => asks.sound (engine.askFor_sound touched first sound)
      · intro binding member
        rcases List.mem_append.mp member with isHere | isLater
        · exact isFirst binding isHere ▸ List.mem_cons_self
        · exact List.mem_cons_of_mem _ (asks.subset binding isLater)
      · exact fun sound binding => chosen_cons isFirst (chosen sound) asks.subset
          (asks.chosen (engine.askFor_sound touched first sound)) keyIsFirst

end Engine

end DeclarativeForm
