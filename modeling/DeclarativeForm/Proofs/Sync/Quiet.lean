import DeclarativeForm.Proofs.Sync.Cascade

/-!
Bringing fields up to date keeps the shape of a form, and it keeps the values of an engine that is
settled already. There the first pass finds every binding asked for with its arguments and clears
nothing, so it is the last one; what is left of it are requests for the same arguments.
-/

set_option autoImplicit false

namespace DeclarativeForm.Engine

variable {engine : Engine} {touched : Option String}

theorem values_emitChange (engine : Engine) : engine.emitChange.values = engine.values := rfl

/-! ### Shape -/

def IsLeafPath (fields : List Node) (path : FieldPath) : Prop :=
  ∃ field place, Addresses fields .root path.segments ⟨.leaf field, place⟩

theorem syncPasses_within (fuel passes : Nat) (named : WellNamed engine.form.fields) :
    ClearedWithin engine.form.fields (IsLeafPath engine.form.fields) engine.values
      (syncPasses touched fuel passes engine).values := by
  induction fuel generalizing passes engine with
  | zero => exact .refl _ _ _
  | succ fuel ih =>
      obtain ⟨noted, cleared, after, changed, rfl, passed, outcome⟩ :=
        syncPasses_succ touched fuel passes engine named
      have within : ClearedWithin engine.form.fields (IsLeafPath engine.form.fields) engine.values
          after.values := by
        refine passed.within.mono ?_
        rintro path ⟨binding, member, rfl⟩
        obtain ⟨place, isAt⟩ := isAt_of_mem (passed.subset binding member)
        exact ⟨binding.field, place, isAt.addresses named⟩
      rcases outcome with ⟨_, same⟩ | ⟨_, _, same⟩ | ⟨_, _, same⟩
      · rw [same]
        exact within
      · rw [same]
        exact within
      · have form : after.form = engine.form := passed.form
        have later := ih (passes + 1) (form ▸ named)
        rw [form] at later
        rw [same]
        exact within.trans later

/-- Bringing fields up to date clears leaves and keeps the shape of the form. -/
theorem refreshDerived_within (touched : Option String) (named : WellNamed engine.form.fields) :
    ClearedWithin engine.form.fields (IsLeafPath engine.form.fields) engine.values
      (engine.refreshDerived touched).values := by
  have form := (syncFlows_works engine).form
  have values := (syncFlows_keeps engine).1
  have started : WellNamed engine.syncFlows.form.fields := form ▸ named
  have within := @syncPasses_within engine.syncFlows touched engine.syncFlows.passBound 0 started
  rw [form, values] at within
  exact within

/-! ### Settled engines -/

private theorem foldl_requestBinding_settled (bindings : List OptionBinding)
    (unique : ∀ one ∈ bindings, ∀ two ∈ bindings, one.key = two.key → one = two)
    (sound : engine.SoundSlots) (asked : ∀ binding ∈ bindings, engine.Asked binding) :
    bindings.foldl (requestBinding touched) (engine, []) =
      (bindings.foldl (fun engine binding => engine.askFor touched binding) engine, []) := by
  induction bindings generalizing engine with
  | nil => rfl
  | cons first rest ih =>
      have here := asked first List.mem_cons_self
      have kept := here.clears
      rw [List.foldl_cons, List.foldl_cons, requestBinding_eq touched engine [] first (sound _),
        kept, if_neg Bool.false_ne_true]
      refine ih ?_ (engine.askFor_sound touched first sound) fun binding member => ?_
      · exact fun one member two other =>
          unique one (List.mem_cons_of_mem _ member) two (List.mem_cons_of_mem _ other)
      · have later := List.mem_cons_of_mem first member
        exact (asked binding later).askFor engine touched first
          (unique first List.mem_cons_self binding later)

/-- Options of a settled engine are brought up to date by asking for every binding once. -/
theorem Settled.syncOptions_eq (settled : engine.Settled) (sound : engine.SoundSlots)
    (named : WellNamed engine.form.fields) (touched : Option String) :
    engine.syncOptions touched =
      engine.bindings.foldl (fun engine binding => engine.askFor touched binding)
        (engine.note (optionBindingNotices engine.form.fields engine.values)) := by
  let noted := engine.note (optionBindingNotices engine.form.fields engine.values)
  have requested : engine.bindings.foldl (requestBinding touched) (noted, []) =
      (engine.bindings.foldl (fun engine binding => engine.askFor touched binding) noted, []) :=
    foldl_requestBinding_settled engine.bindings
      (fun one member two other => eq_of_key_eq named member other) sound settled
  have pass : syncPass touched noted noted.bindings =
      (engine.bindings.foldl (fun engine binding => engine.askFor touched binding) noted,
        false) := by
    rw [syncPass, show noted.bindings = engine.bindings from rfl, requested]
    rfl
  have positive : 0 < engine.passBound := Nat.lt_of_le_of_lt (Nat.zero_le _) (size_lt_passBound _)
  obtain ⟨fuel, enough⟩ := Nat.exists_eq_add_one_of_ne_zero (Nat.ne_of_gt positive)
  have step : syncPasses touched (fuel + 1) 0 engine =
      if !(syncPass touched noted noted.bindings).2 then (syncPass touched noted noted.bindings).1
      else if noted.bindings.length < 0 + 1 then
        (syncPass touched noted noted.bindings).1.note [.dependenciesUnsettled (0 + 1)]
      else syncPasses touched fuel (0 + 1) (syncPass touched noted noted.bindings).1 := rfl
  rw [syncOptions, enough, step, pass]
  rfl

theorem foldl_askFor_values (bindings : List OptionBinding) :
    (bindings.foldl (fun engine binding => engine.askFor touched binding) engine).values =
      engine.values := by
  induction bindings generalizing engine with
  | nil => rfl
  | cons binding rest ih => exact ih

theorem Settled.refreshDerived_values (settled : engine.Settled) (sound : engine.SoundSlots)
    (named : WellNamed engine.form.fields) (touched : Option String) :
    (engine.refreshDerived touched).values = engine.values := by
  have form := (syncFlows_works engine).form
  obtain ⟨values, slots⟩ := syncFlows_keeps engine
  have started : engine.syncFlows.Settled := by
    intro binding member
    rw [bindings_congr form values] at member
    exact (settled binding member).congr slots
  rw [refreshDerived, started.syncOptions_eq (sound.congr slots) (form ▸ named) touched,
    foldl_askFor_values]
  exact values

end DeclarativeForm.Engine
