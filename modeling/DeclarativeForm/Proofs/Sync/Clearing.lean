import DeclarativeForm.Proofs.Fetch.Work
import DeclarativeForm.Proofs.Sync.Request
import DeclarativeForm.Proofs.Tree.Binding

/-!
The clearings of a pass. Clearing fields of a form with good names keeps its shape and every value
that is not cleared, and a field that is cleared stays so. A pass that tells of no change has left
the values alone, and a pass that tells of one has cleared a field that was not.
-/

set_option autoImplicit false

namespace DeclarativeForm

open FieldPath

def OptionBinding.isCleared (values : Json) (binding : OptionBinding) : Bool :=
  Engine.isCleared (binding.path.get? values) binding.field.clearedValue

/-- Fields at some paths were cleared, and nothing else has changed. -/
structure ClearedWithin (fields : List Node) (targets : FieldPath → Prop) (before after : Json) :
    Prop where
  shape : walk .everything after .root fields = walk .everything before .root fields
  items : ∀ (path : FieldPath) (head : Repeatable) (template : List Node) (place : Context),
    Addresses fields .root path.segments ⟨.repeatable head template, place⟩ →
    itemCount path after = itemCount path before
  others : ∀ path : FieldPath, (∀ target, targets target → Apart target.segments path.segments) →
    path.get? after = path.get? before
  kept : ∀ (path : FieldPath) (field : Leaf) (place : Context),
    Addresses fields .root path.segments ⟨.leaf field, place⟩ →
    Engine.isCleared (path.get? before) field.clearedValue = true →
    Engine.isCleared (path.get? after) field.clearedValue = true

namespace ClearedWithin

variable {fields : List Node} {targets more : FieldPath → Prop} {first second third : Json}

theorem refl (fields : List Node) (targets : FieldPath → Prop) (values : Json) :
    ClearedWithin fields targets values values :=
  ⟨rfl, fun _ _ _ _ _ => rfl, fun _ _ => rfl, fun _ _ _ _ => id⟩

theorem trans (one : ClearedWithin fields targets first second)
    (two : ClearedWithin fields targets second third) :
    ClearedWithin fields targets first third where
  shape := two.shape.trans one.shape
  items path head template place there :=
    (two.items path head template place there).trans (one.items path head template place there)
  others path apart := (two.others path apart).trans (one.others path apart)
  kept path field place addresses isCleared :=
    two.kept path field place addresses (one.kept path field place addresses isCleared)

theorem mono (one : ClearedWithin fields targets first second)
    (subset : ∀ path, targets path → more path) : ClearedWithin fields more first second where
  shape := one.shape
  items := one.items
  others path apart := one.others path fun target isTarget => apart target (subset target isTarget)
  kept := one.kept

theorem of_edited (named : WellNamed fields) {path : FieldPath} {field : Leaf} {place : Context}
    (addresses : Addresses fields .root path.segments ⟨.leaf field, place⟩)
    (edited : Edited path.segments first second)
    (isCleared : Engine.isCleared (path.get? second) field.clearedValue = true) :
    ClearedWithin fields (· = path) first second where
  shape := edited.walk_eq named addresses
  items _ _ _ _ there := edited.itemCount_repeatable addresses there
  others other apart := edited.getAt_of_apart (apart path rfl)
  kept other otherField otherPlace there wasCleared := by
    rcases addresses.compare_leaves there with apart | ⟨same, rfl, _⟩
    · have untouched := edited.getAt_of_apart apart
      rw [get?_eq, untouched]
      exact wasCleared
    · rw [get?_eq, ← same]
      exact isCleared

end ClearedWithin

namespace Engine

theorem isCleared_self (fallback : Option Json) : isCleared fallback fallback = true := by
  cases fallback with
  | none => rfl
  | some value => exact BEq.rfl

theorem isCleared_none_of_fallback {current : Option Json}
    (filled : isCleared current none = false) : current ≠ none := by
  rintro rfl
  cases filled

/-- A clearing does nothing, or it clears a field that was not cleared. -/
theorem applyClearing_cases {path : FieldPath} (plain : IsPlain path.segments)
    (ends : EndsInKey path.segments) {store : Store} (indexed : Indexed path.segments store.values)
    (changed : Bool) (fallback : Option Json) :
    applyClearing (store, changed) (path.text, fallback) = (store, changed) ∧
        ((∃ read, parse path.text = .ok read) →
          isCleared (path.get? store.values) fallback = true) ∨
      isCleared (path.get? store.values) fallback = false ∧
        ∃ after, applyClearing (store, changed) (path.text, fallback) = (after, true) ∧
          Edited path.segments store.values after.values ∧
          isCleared (path.get? after.values) fallback = true := by
  unfold applyClearing
  cases done : parse path.text with
  | error fault =>
      refine Or.inl ⟨rfl, ?_⟩
      rintro ⟨read, impossible⟩
      cases impossible
  | ok read =>
      obtain rfl := eq_of_parse_text plain.isWritable done
      dsimp only
      cases already : isCleared (store.value? read) fallback with
      | true => exact Or.inl ⟨rfl, fun _ => already⟩
      | false =>
          refine Or.inr ⟨already, ?_⟩
          cases fallback with
          | some value =>
              refine ⟨store.setValue read value, rfl, setAt_edited ends indexed value, ?_⟩
              change isCleared (getAt read.segments (setAt read.segments store.values value)) _ = _
              rw [getAt_setAt]
              exact isCleared_self _
          | none =>
              have isThere := isCleared_none_of_fallback already
              refine ⟨store.removeValue read, rfl, without_edited ends isThere, ?_⟩
              change isCleared (read.get? (read.without store.values)) none = true
              rw [get?_without ends]
              rfl

/-- What the clearings of some bindings do to a store and to the mark that tells of a change. -/
structure Swept (fields : List Node) (cleared : List OptionBinding) (state after : Store × Bool) :
    Prop where
  within : ClearedWithin fields (fun path => ∃ binding ∈ cleared, binding.path = path)
    state.1.values after.1.values
  idle : after.2 = false → state.2 = false ∧ after.1 = state.1
  progress : after.2 = true → state.2 = true ∨ ∃ binding ∈ cleared,
    binding.isCleared state.1.values = false ∧ binding.isCleared after.1.values = true
  done : ∀ binding ∈ cleared, (∃ path, parse binding.key = .ok path) →
    binding.isCleared after.1.values = true

def IsVisited (fields : List Node) (values : Json) (binding : OptionBinding) : Prop :=
  ∃ place, ⟨.leaf binding.field, binding.path, place⟩ ∈ walk .everything values .root fields

variable {fields : List Node}

theorem IsVisited.kept {binding : OptionBinding} {values before after : Json}
    {targets : FieldPath → Prop} (visited : IsVisited fields values binding)
    (named : WellNamed fields) (within : ClearedWithin fields targets before after)
    (isCleared : binding.isCleared before = true) : binding.isCleared after = true := by
  obtain ⟨place, member⟩ := visited
  exact within.kept _ _ _ (addresses_of_mem_walk named member rfl).1 isCleared

private theorem swept_one (named : WellNamed fields) (binding : OptionBinding)
    (state : Store × Bool) (visited : IsVisited fields state.1.values binding) :
    Swept fields [binding] state (applyClearing state binding.clearing) := by
  obtain ⟨store, changed⟩ := state
  obtain ⟨place, member⟩ := visited
  obtain ⟨addresses, complete⟩ := addresses_of_mem_walk named member rfl
  rcases applyClearing_cases (addresses.isPlain named rfl) addresses.endsInKey
    (indexed_of_missingItem? complete) changed binding.field.clearedValue with
    ⟨same, already⟩ | ⟨filled, after, cleared, edited, isCleared⟩
  · change Swept fields [binding] _ (applyClearing _ (binding.path.text, _))
    rw [same]
    refine ⟨.refl _ _ _, fun idle => ⟨idle, rfl⟩, Or.inl, ?_⟩
    intro other isBinding readable
    rw [List.mem_singleton.mp isBinding] at readable ⊢
    exact already readable
  · change Swept fields [binding] _ (applyClearing _ (binding.path.text, _))
    rw [cleared]
    refine ⟨?_, fun idle => (nomatch idle), fun _ => ?_, ?_⟩
    · refine (ClearedWithin.of_edited named addresses edited isCleared).mono fun path same => ?_
      exact ⟨binding, List.mem_singleton_self binding, same.symm⟩
    · exact Or.inr ⟨binding, List.mem_singleton_self binding, filled, isCleared⟩
    · intro other isBinding _
      rw [List.mem_singleton.mp isBinding]
      exact isCleared

theorem foldl_applyClearing_swept (named : WellNamed fields) (cleared : List OptionBinding)
    (state : Store × Bool)
    (visited : ∀ binding ∈ cleared, IsVisited fields state.1.values binding) :
    Swept fields cleared state
      ((cleared.map OptionBinding.clearing).foldl applyClearing state) := by
  induction cleared generalizing state with
  | nil => exact ⟨.refl _ _ _, fun idle => ⟨idle, rfl⟩, Or.inl, fun _ member => nomatch member⟩
  | cons first rest ih =>
      have here := visited first List.mem_cons_self
      have one := swept_one named first state here
      have later := ih (applyClearing state first.clearing) fun binding member => by
        obtain ⟨place, there⟩ := visited binding (List.mem_cons_of_mem _ member)
        exact ⟨place, one.within.shape ▸ there⟩
      rw [List.map_cons, List.foldl_cons]
      generalize applyClearing state first.clearing = middle at one later
      refine ⟨?_, ?_, ?_, ?_⟩
      · refine (one.within.mono ?_).trans (later.within.mono ?_)
        · rintro path ⟨binding, member, same⟩
          exact ⟨binding, List.mem_singleton.mp member ▸ List.mem_cons_self, same⟩
        · rintro path ⟨binding, member, same⟩
          exact ⟨binding, List.mem_cons_of_mem _ member, same⟩
      · intro idle
        obtain ⟨stillIdle, same⟩ := later.idle idle
        rw [same]
        exact one.idle stillIdle
      · intro told
        rcases later.progress told with earlier | ⟨binding, member, filled, isCleared⟩
        · rcases one.progress earlier with before | ⟨binding, member, filled, isCleared⟩
          · exact Or.inl before
          · cases List.mem_singleton.mp member
            exact Or.inr ⟨first, List.mem_cons_self, filled, here.kept named later.within isCleared⟩
        · refine Or.inr ⟨binding, List.mem_cons_of_mem _ member, ?_, isCleared⟩
          refine eq_false_of_ne_true fun wasCleared => ?_
          have isVisited := visited binding (List.mem_cons_of_mem _ member)
          rw [isVisited.kept named one.within wasCleared] at filled
          cases filled
      · intro binding member readable
        rcases List.mem_cons.mp member with rfl | inRest
        · exact here.kept named later.within
            (one.done binding (List.mem_singleton_self binding) readable)
        · exact later.done binding inRest readable

/-! ### A pass -/

def bindings (engine : Engine) : List OptionBinding :=
  optionBindings engine.form.fields engine.values

structure Passed (engine : Engine) (cleared : List OptionBinding) (after : Engine)
    (changed : Bool) : Prop where
  form : after.form = engine.form
  options : after.options = engine.options
  asked : ∀ binding ∈ engine.bindings, after.Asked binding
  sound : engine.SoundSlots → after.SoundSlots
  subset : ∀ binding ∈ cleared, binding ∈ engine.bindings
  chosen : engine.SoundSlots →
    ∀ binding ∈ engine.bindings, binding ∈ cleared ↔ engine.clears binding = true
  within : ClearedWithin engine.form.fields (fun path => ∃ binding ∈ cleared, binding.path = path)
    engine.values after.values
  idle : changed = false → after.values = engine.values
  progress : changed = true → ∃ binding ∈ cleared,
    binding.isCleared engine.values = false ∧ binding.isCleared after.values = true
  done : ∀ binding ∈ cleared, (∃ path, parse binding.key = .ok path) →
    binding.isCleared after.values = true

theorem syncPass_passed (touched : Option String) (engine : Engine)
    (named : WellNamed engine.form.fields) :
    ∃ cleared, engine.Passed cleared (syncPass touched engine engine.bindings).1
      (syncPass touched engine engine.bindings).2 := by
  obtain ⟨cleared, told, asks⟩ := foldl_requestBinding touched engine.bindings
    (fun one member two other => eq_of_key_eq named member other) engine []
  rw [List.nil_append] at told
  unfold syncPass
  dsimp only
  generalize engine.bindings.foldl (requestBinding touched) (engine, []) = requested at told asks
  obtain ⟨requested, clearings⟩ := requested
  dsimp only at told asks ⊢
  subst told
  have values : requested.store.values = engine.values := asks.values
  have swept := foldl_applyClearing_swept named cleared (requested.store, false)
    fun binding member => by
      obtain ⟨place, isAt⟩ := isAt_of_mem (asks.subset binding member)
      refine ⟨place, ?_⟩
      rw [values]
      exact isAt.visited
  have tables := foldl_applyClearing_tables (cleared.map OptionBinding.clearing)
    (requested.store, false)
  generalize (cleared.map OptionBinding.clearing).foldl applyClearing (requested.store, false) =
    result at swept tables ⊢
  obtain ⟨store, changed⟩ := result
  have slots : store.slots = requested.store.slots := tables.1
  refine ⟨cleared, asks.form, asks.options, ?_, ?_, asks.subset, asks.chosen, ?_, ?_, ?_,
    swept.done⟩
  · exact fun binding member => (asks.asked binding member).congr slots
  · exact fun sound => (asks.sound sound).congr slots
  · rw [← values]
    exact swept.within
  · intro isIdle
    rw [← values]
    exact congrArg Store.values (swept.idle isIdle).2
  · intro told
    rw [← values]
    exact (swept.progress told).resolve_left Bool.false_ne_true

end Engine

end DeclarativeForm
