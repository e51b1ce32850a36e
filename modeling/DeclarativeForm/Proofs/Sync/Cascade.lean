import DeclarativeForm.Proofs.Fetch.Accounting
import DeclarativeForm.Proofs.Path.Grammar
import DeclarativeForm.Proofs.Sync.Passes
import DeclarativeForm.Proofs.Tree.Dependency

/-!
How far a write to a leaf spreads. Away from the leaves downstream of its name the arguments stay
what they were, so a pass finds them asked for and clears nothing there. A binding whose arguments
change was asked for with the old ones until then, so the pass that finds the new ones clears it,
and what is cleared stays so.
-/

set_option autoImplicit false

namespace DeclarativeForm

open FieldPath

def OptionBinding.renewed (binding : OptionBinding) (place : Context) (values : Json) :
    OptionBinding :=
  { binding with args := binding.source.argsIn (place.scope values) }

namespace OptionBinding.IsAt

variable {fields : List Node} {before after : Json} {binding : OptionBinding} {place : Context}

theorem renewed (isAt : binding.IsAt fields before place)
    (shape : walk .everything after .root fields = walk .everything before .root fields) :
    (binding.renewed place after).IsAt fields after place where
  visited := shape ▸ isAt.visited
  source := isAt.source
  args := rfl

theorem renewed_eq_self (isAt : binding.IsAt fields before place)
    (same : binding.source.argsIn (place.scope after) =
      binding.source.argsIn (place.scope before)) :
    binding.renewed place after = binding := by
  rw [OptionBinding.renewed, same, ← isAt.args]

end OptionBinding.IsAt

namespace Engine

/-- An engine while a write to a leaf of a name spreads, with the values before the write. -/
structure Spreading (fields : List Node) (name : String) (origin : FieldPath)
    (value before : Json) (engine : Engine) : Prop where
  form : engine.form.fields = fields
  resets : engine.options.resetDependents = true
  sound : engine.SoundSlots
  shape : walk .everything engine.values .root fields = walk .everything before .root fields
  within : SpreadsWithin fields name origin before engine.values
  held : origin.get? engine.values = some value
  asked : ∀ binding place, binding.IsAt fields before place →
    ¬binding.field.DependsOn fields name → engine.Asked binding
  stale : ∀ binding place, binding.IsAt fields before place → binding.dependencies ≠ [] →
    binding.args.isSome = true → (∃ path, parse binding.key = .ok path) →
    engine.Asked binding ∨ binding.isCleared engine.values = true

/-- A pass that does not clear a binding that was asked for has found no other arguments. -/
private theorem Passed.asked_of_kept {engine after : Engine} {cleared : List OptionBinding}
    {changed : Bool} (passed : engine.Passed cleared after changed)
    (resets : engine.options.resetDependents = true) {binding current : OptionBinding}
    (asked : engine.Asked binding) (args : binding.args.isSome = true)
    (listed : current ∈ engine.bindings) (sameKey : current.key = binding.key)
    (depends : current.dependencies ≠ []) (kept : engine.clears current = false) :
    after.Asked binding := by
  obtain ⟨slot, isThere, same⟩ := asked
  rw [← sameKey] at isThere
  have found : engine.store.slotOrEmpty current.key = slot := by
    rw [Store.slotOrEmpty, isThere]
    rfl
  have requested : slot.requestedFor.isSome = true := by
    obtain ⟨wanted, isWanted⟩ := Option.isSome_iff_exists.mp args
    rw [isWanted] at same
    cases found : slot.requestedFor with
    | some _ => rfl
    | none =>
        rw [found] at same
        cases same
  have some : current.dependencies.isEmpty = false := List.isEmpty_eq_false_iff.mpr depends
  have unchanged : (slot.requestedFor == current.args) = true := by
    simp only [clears, found, requested, resets, some, Bool.not_false, Bool.and_true,
      Bool.true_and, bne, Bool.not_eq_false'] at kept
    exact kept
  obtain ⟨next, isNext, equal⟩ := passed.asked current listed
  rw [sameKey] at isNext
  exact ⟨next, isNext, BEq.trans equal (BEq.trans (BEq.symm unchanged) same)⟩

namespace Spreading

variable {fields : List Node} {leaf : Leaf} {place : Context} {origin : FieldPath}
  {value before : Json} {engine after : Engine}

theorem congr (spreading : Spreading fields leaf.name origin value before engine)
    (form : after.form = engine.form) (options : after.options = engine.options)
    (values : after.values = engine.values) (slots : after.store.slots = engine.store.slots) :
    Spreading fields leaf.name origin value before after := by
  refine ⟨form ▸ spreading.form, options ▸ spreading.resets, spreading.sound.congr slots,
    values ▸ spreading.shape, values ▸ spreading.within, values ▸ spreading.held, ?_, ?_⟩
  · exact fun binding around isAt independent =>
      (spreading.asked binding around isAt independent).congr slots
  · intro binding around isAt depends args readable
    rw [values]
    exact (spreading.stale binding around isAt depends args readable).imp_left (·.congr slots)

theorem emitChange (spreading : Spreading fields leaf.name origin value before engine) :
    Spreading fields leaf.name origin value before engine.emitChange :=
  spreading.congr rfl rfl rfl rfl

variable {cleared : List OptionBinding} {changed : Bool}

theorem cleared_isDownstream (spreading : Spreading fields leaf.name origin value before engine)
    (cascades : Cascades fields)
    (written : Addresses fields .root origin.segments ⟨.leaf leaf, place⟩)
    (passed : engine.Passed cleared after changed) {binding : OptionBinding}
    (member : binding ∈ cleared) : IsDownstream fields leaf.name binding.path := by
  have listed := passed.subset binding member
  have isBinding : binding ∈ optionBindings fields engine.values := spreading.form ▸ listed
  obtain ⟨around, isAt⟩ := isAt_of_mem isBinding
  have here := isAt.addresses cascades.named
  refine ⟨binding.field, around, here, ?_⟩
  by_contra independent
  have sameArgs := cascades.argsIn_eq spreading.within written here isAt.source independent
  have wasAt := isAt.renewed spreading.shape.symm
  rw [isAt.renewed_eq_self sameArgs.symm] at wasAt
  have asked := spreading.asked binding around wasAt independent
  have clears := (passed.chosen spreading.sound binding listed).mp member
  rw [asked.clears] at clears
  cases clears

theorem passed (spreading : Spreading fields leaf.name origin value before engine)
    (cascades : Cascades fields)
    (written : Addresses fields .root origin.segments ⟨.leaf leaf, place⟩)
    (passed : engine.Passed cleared after changed) :
    Spreading fields leaf.name origin value before after := by
  have form := spreading.form
  have downstream : ∀ path, (∃ binding ∈ cleared, binding.path = path) →
      IsDownstream fields leaf.name path := by
    rintro path ⟨binding, member, rfl⟩
    exact spreading.cleared_isDownstream cascades written passed member
  have within := passed.within.mono downstream
  rw [form] at within
  have listed {binding : OptionBinding} {around : Context}
      (isAt : binding.IsAt fields before around) :
      binding.renewed around engine.values ∈ engine.bindings := by
    rw [bindings, form]
    exact (isAt.renewed spreading.shape).mem cascades.shown
  refine ⟨?_, ?_, passed.sound spreading.sound, within.shape.trans spreading.shape, ?_, ?_, ?_, ?_⟩
  · rw [passed.form]
    exact form
  · rw [passed.options]
    exact spreading.resets
  · intro path apart free
    exact (within.others path free).trans (spreading.within path apart free)
  · rw [within.others origin fun target isTarget => isTarget.apart written
      (cascades.not_dependsOn_self written.mem_everyNode)]
    exact spreading.held
  · intro binding around isAt independent
    have sameArgs := cascades.argsIn_eq spreading.within written (isAt.addresses cascades.named)
      isAt.source independent
    have asked := passed.asked _ (listed isAt)
    rw [isAt.renewed_eq_self sameArgs] at asked
    exact asked
  · intro binding around isAt depends args readable
    -- The pass sees the arguments as they are now: it clears the field, or they are as before.
    by_cases isCleared : binding.renewed around engine.values ∈ cleared
    · have done : (binding.renewed around engine.values).isCleared after.values = true :=
        passed.done _ isCleared readable
      exact Or.inr done
    · refine (spreading.stale binding around isAt depends args readable).imp ?_ ?_
      · intro asked
        refine passed.asked_of_kept spreading.resets asked args (listed isAt) rfl depends ?_
        refine eq_false_of_ne_true fun clears => ?_
        exact isCleared ((passed.chosen spreading.sound _ (listed isAt)).mpr clears)
      · exact within.kept _ _ _ (isAt.addresses cascades.named)

theorem syncPasses (touched : Option String) {fuel passes : Nat}
    (spreading : Spreading fields leaf.name origin value before engine)
    (cascades : Cascades fields)
    (written : Addresses fields .root origin.segments ⟨.leaf leaf, place⟩) :
    Spreading fields leaf.name origin value before (syncPasses touched fuel passes engine) := by
  induction fuel generalizing passes engine with
  | zero => exact spreading
  | succ fuel ih =>
      obtain ⟨noted, cleared, after, changed, rfl, passed, outcome⟩ :=
        syncPasses_succ touched fuel passes engine (spreading.form ▸ cascades.named)
      have noted : Spreading fields leaf.name origin value before (engine.note
          (optionBindingNotices engine.form.fields engine.values)) :=
        spreading.congr rfl rfl rfl rfl
      have later := noted.passed cascades written passed
      rcases outcome with ⟨_, same⟩ | ⟨_, _, same⟩ | ⟨_, _, same⟩
      · rw [same]
        exact later
      · rw [same]
        exact later.congr rfl rfl rfl rfl
      · rw [same]
        exact ih later

/-- When a write has spread, a binding whose arguments were given has them still or is cleared. -/
theorem same_or_cleared (spreading : Spreading fields leaf.name origin value before engine)
    (settled : engine.Settled) (cascades : Cascades fields) {binding : OptionBinding}
    {around : Context} {args : List Json} (isAt : binding.IsAt fields before around)
    (depends : binding.dependencies ≠ []) (given : binding.args = some args)
    (readable : ∃ path, parse binding.key = .ok path) :
    ((binding.renewed around engine.values).args == some args) = true ∨
      binding.isCleared engine.values = true := by
  refine (spreading.stale binding around isAt depends (given ▸ rfl) readable).imp_left ?_
  rintro ⟨slot, isThere, same⟩
  have listed : binding.renewed around engine.values ∈ engine.bindings := by
    rw [bindings, spreading.form]
    exact (isAt.renewed spreading.shape).mem cascades.shown
  obtain ⟨found, isFound, current⟩ := settled _ listed
  have sameSlot : some found = some slot := isFound.symm.trans isThere
  cases sameSlot
  rw [given] at same
  exact BEq.trans (BEq.symm current) same

theorem start {written : Engine} (settled : engine.Settled) (sound : engine.SoundSlots)
    (resets : engine.options.resetDependents = true) (cascades : Cascades engine.form.fields)
    (isLeaf : Addresses engine.form.fields .root origin.segments ⟨.leaf leaf, place⟩)
    (complete : missingItem? origin engine.values = none) (form : written.form = engine.form)
    (options : written.options = engine.options)
    (values : written.values = origin.set engine.values value)
    (slots : written.store.slots = engine.store.slots) :
    Spreading engine.form.fields leaf.name origin value engine.values written := by
  have edited : Edited origin.segments engine.values written.values :=
    values ▸ setAt_edited isLeaf.endsInKey (indexed_of_missingItem? complete) value
  have asked {binding : OptionBinding} {around : Context}
      (isAt : binding.IsAt engine.form.fields engine.values around) : written.Asked binding :=
    (settled binding (isAt.mem cascades.shown)).congr slots
  have held : origin.get? written.values = some value := by
    rw [values]
    exact getAt_setAt _ _ _
  exact {
    form := congrArg Form.fields form
    resets := options ▸ resets
    sound := sound.congr slots
    shape := edited.walk_eq cascades.named isLeaf
    within := fun path apart _ => edited.getAt_of_apart apart
    held
    asked := fun _ _ isAt _ => asked isAt
    stale := fun _ _ isAt _ _ _ => Or.inl (asked isAt) }

end Spreading

theorem Spreading.refreshDerived {fields : List Node} {leaf : Leaf} {place : Context}
    {origin : FieldPath} {value before : Json} {engine : Engine} (touched : Option String)
    (spreading : Spreading fields leaf.name origin value before engine)
    (cascades : Cascades fields)
    (written : Addresses fields .root origin.segments ⟨.leaf leaf, place⟩) :
    Spreading fields leaf.name origin value before (engine.refreshDerived touched) := by
  have works := syncFlows_works engine
  have started : Spreading fields leaf.name origin value before engine.syncFlows :=
    spreading.congr works.form works.options engine.syncFlows_keeps.1 engine.syncFlows_keeps.2
  exact started.syncPasses touched cascades written

/-! ### Writing -/

theorem locate_eq_ok {engine : Engine} {text : String} {path : FieldPath} {located : Located}
    (found : engine.locate text = .ok (path, located)) :
    parse text = .ok path ∧ Addresses engine.form.fields .root path.segments located := by
  unfold locate parsePath at found
  cases parsed : parse text with
  | error fault =>
      rw [parsed] at found
      cases found
  | ok read =>
      rw [parsed] at found
      dsimp only at found
      cases there : DeclarativeForm.locate engine.form.fields read with
      | none =>
          rw [there] at found
          cases found
      | some spot =>
          rw [there] at found
          cases found
          exact ⟨rfl, addresses_of_locateFrom there⟩

theorem setValue_eq_ok {engine : Engine} {text : String} {value : Json} {path : FieldPath}
    {located : Located} (found : engine.locate text = .ok (path, located))
    (accepted : (engine.setValue text value).2 = .ok ()) :
    missingItem? path engine.values = none ∧
      ∃ written : Engine, written.form = engine.form ∧ written.options = engine.options ∧
        written.values = path.set engine.values value ∧
        written.store.slots = engine.store.slots ∧
        (engine.setValue text value).1 =
          (written.refreshDerived (some path.text)).emitChange := by
  have reached := engine.setValue_write text value
  generalize engine.setValue text value = result at reached accepted ⊢
  cases reached with
  | refused rejection => cases accepted
  | @written spot other there complete =>
      cases found.symm.trans there
      refine ⟨complete, engine.withValue path located value, engine.withValue_form _ _ _, ?_, ?_,
        ?_, rfl⟩
      · unfold withValue
        dsimp only
        split <;> rfl
      · unfold withValue
        dsimp only
        split
        · exact recordErrors_values _ _ _
        · rfl
      · unfold withValue
        dsimp only
        split
        · exact (recordErrors_tables _ _ _).1
        · rfl

theorem setValue_spreads {engine : Engine} (settled : engine.Settled) (sound : engine.SoundSlots)
    (resets : engine.options.resetDependents = true) (cascades : Cascades engine.form.fields)
    {text : String} {value : Json} {path : FieldPath} {leaf : Leaf} {place : Context}
    (found : engine.locate text = .ok (path, ⟨.leaf leaf, place⟩))
    (accepted : (engine.setValue text value).2 = .ok ()) :
    Spreading engine.form.fields leaf.name path value engine.values (engine.setValue text value).1 ∧
      (engine.setValue text value).1.Settled := by
  have isLeaf := (locate_eq_ok found).2
  obtain ⟨complete, written, form, options, values, slots, same⟩ := setValue_eq_ok found accepted
  have started := Spreading.start settled sound resets cascades isLeaf complete form options values
    slots
  have spread := started.refreshDerived (some path.text) cascades isLeaf
  have namedAfter : WellNamed written.form.fields := form ▸ cascades.named
  have shownAfter : AlwaysShown written.form.fields := form ▸ cascades.shown
  have done := written.refreshDerived_settles (some path.text) namedAfter shownAfter
  rw [same]
  exact ⟨spread.emitChange, (emit_rests _ _).settled done⟩

theorem missing_or_eq_of_isCleared {current fallback : Option Json}
    (cleared : isCleared current fallback = true) :
    isMissing current = true ∨ (current == fallback) = true := by
  cases fallback with
  | none => exact Or.inl cleared
  | some value => exact Or.inr cleared

theorem value?_eq {engine : Engine} {text : String} {path : FieldPath}
    (parsed : parse text = .ok path) : engine.value? text = path.get? engine.values := by
  rw [value?, parsed]
  rfl

end Engine

/-! ### Sessions -/

namespace Session

theorem Reachable.soundSlots {mounting : Engine.Mounting} {session : Session}
    (reachable : Reachable mounting session) : session.engine.SoundSlots := by
  intro key
  unfold Store.slotOrEmpty
  cases isThere : session.engine.store.slot? key with
  | none => exact OptionsSlot.sound_ofGeneration 0
  | some slot => exact (reachable.accounted.slots (.field key) slot isThere).sound

/-- After a write to a leaf the leaf has the value, no other leaf has changed that does not depend
on its name, and every field with dependencies whose arguments were given is asked for with the same
arguments or was cleared. -/
theorem Reachable.setValue_cascades {mounting : Engine.Mounting} {session : Session}
    (reachable : Reachable mounting session) (cascades : Cascades mounting.form.fields)
    (resets : mounting.options.resetDependents = true) {text : String} {value : Json}
    {path : FieldPath} {leaf : Leaf} {place : Context}
    (isLeaf : session.engine.locate text = .ok (path, ⟨.leaf leaf, place⟩))
    (accepted : (session.engine.setValue text value).2 = .ok ()) :
    (session.engine.setValue text value).1.value? text = some value ∧
      (∀ other spot field around,
        session.engine.locate other = .ok (spot, ⟨.leaf field, around⟩) → spot ≠ path →
        ¬field.DependsOn mounting.form.fields leaf.name →
        (session.engine.setValue text value).1.value? other = session.engine.value? other) ∧
      ∀ other binding args, parse other = .ok binding.path →
        binding ∈ optionBindings mounting.form.fields session.engine.values →
        binding.dependencies ≠ [] → binding.args = some args →
        ∃ later ∈ optionBindings mounting.form.fields
            (session.engine.setValue text value).1.values,
          later.path = binding.path ∧ later.field = binding.field ∧
            ((later.args == some args) = true ∨
              isMissing ((session.engine.setValue text value).1.value? other) = true ∨
              ((session.engine.setValue text value).1.value? other ==
                binding.field.clearedValue) = true) := by
  have form : session.engine.form.fields = mounting.form.fields := by
    rw [reachable.form]
  rw [← reachable.options] at resets
  rw [← form] at cascades ⊢
  have settled := reachable.settles (form ▸ cascades.named) (form ▸ cascades.shown)
  obtain ⟨spreading, settledAfter⟩ :=
    Engine.setValue_spreads settled reachable.soundSlots resets cascades isLeaf accepted
  obtain ⟨parsed, written⟩ := Engine.locate_eq_ok isLeaf
  generalize (session.engine.setValue text value).1 = after at spreading settledAfter
  refine ⟨?_, ?_, ?_⟩
  · rw [Engine.value?_eq parsed]
    exact spreading.held
  · intro other spot field around located different independent
    obtain ⟨parsedOther, there⟩ := Engine.locate_eq_ok located
    rw [Engine.value?_eq parsedOther, Engine.value?_eq parsedOther]
    apply spreading.within
    · rcases written.compare_leaves there with apart | ⟨same, _⟩
      · exact apart
      · exact absurd (congrArg FieldPath.mk same.symm) different
    · exact fun target isTarget => isTarget.apart there independent
  · intro other binding args parsedOther member depends given
    obtain ⟨around, isAt⟩ := isAt_of_mem member
    have readable : parse binding.key = .ok binding.path :=
      parse_text_of_parse (isAt.isPlain cascades.named) parsedOther
    have later := (isAt.renewed spreading.shape).mem cascades.shown
    refine ⟨_, later, rfl, rfl, ?_⟩
    rw [Engine.value?_eq parsedOther]
    have either :=
      spreading.same_or_cleared settledAfter cascades isAt depends given ⟨_, readable⟩
    exact either.imp_right Engine.missing_or_eq_of_isCleared

private theorem countryAndCity_cascades : Cascades countryAndCity.form.fields where
  named := by decide +kernel
  shown := by decide +kernel
  keyed := by decide +kernel
  acyclic := acyclic_of_rank (fun name => if name = "city" then 1 else 0) (by decide +kernel)

def inItaly : List HostStep := [.operate (.setValue "country" (.string "Italy"))]

/-- The city is cleared when another country is chosen. -/
theorem inItaly_setValue :
    (((mount countryAndCity).run inItaly).engine.setValue "country"
        (.string "France")).1.value? "country" = some (.string "France") ∧
      ∃ later ∈ optionBindings countryAndCity.form.fields
          (((mount countryAndCity).run inItaly).engine.setValue "country"
            (.string "France")).1.values,
        later.path = .key "city" ∧
          ((later.args == some [.string "Italy"]) = true ∨
            isMissing ((((mount countryAndCity).run inItaly).engine.setValue "country"
              (.string "France")).1.value? "city") = true ∨
            ((((mount countryAndCity).run inItaly).engine.setValue "country"
              (.string "France")).1.value? "city" == none) = true) := by
  have reachable : Reachable countryAndCity ((mount countryAndCity).run inItaly) :=
    .run .mounted (by decide +kernel)
  have listed : (optionBindings countryAndCity.form.fields
      ((mount countryAndCity).run inItaly).engine.values).any (fun binding =>
        decide (binding.path = .key "city" ∧ binding.field.clearedValue = none ∧
          binding.dependencies ≠ [] ∧ binding.args = some [.string "Italy"])) = true := by
    decide +kernel
  generalize (mount countryAndCity).run inItaly = session at *
  have country : parse "country" = .ok (.key "country") :=
    parse_of_isPlainName (by decide +kernel)
  have city : parse "city" = .ok (.key "city") := parse_of_isPlainName (by decide +kernel)
  have isLeaf : session.engine.locate "country" =
      .ok (.key "country", ⟨.leaf (.fed "country" (.dependingOn [])), .root⟩) := by
    rw [Engine.locate, parsePath, country, reachable.form]
    rfl
  have accepted : (session.engine.setValue "country" (.string "France")).2 = .ok () := by
    rw [Engine.setValue, isLeaf]
    rfl
  obtain ⟨binding, member, isCity⟩ := List.any_eq_true.mp listed
  obtain ⟨path, cleared, depends, args⟩ := of_decide_eq_true isCity
  obtain ⟨held, _, stale⟩ :=
    Reachable.setValue_cascades reachable countryAndCity_cascades rfl isLeaf accepted
  obtain ⟨later, isLater, same, _, either⟩ :=
    stale "city" binding _ (path ▸ city) member depends args
  rw [cleared] at either
  exact ⟨held, later, isLater, same.trans path, either⟩

end Session

end DeclarativeForm
