import DeclarativeForm.Proofs.Fetch.Accounting
import DeclarativeForm.Proofs.Sync.Passes

/-!
Options are current. Unless the passes were given up, every visible field fed by a source is asked
for with its current arguments in every session, and what it offers was delivered for them.
-/

set_option autoImplicit false

namespace DeclarativeForm

open FieldPath

/-- What a visible field fed by a source offers is in its slot, if its path can be written. -/
theorem Engine.fieldOptions_eq {engine : Engine} (named : WellNamed engine.form.fields)
    {binding : OptionBinding} (member : binding ∈ engine.bindings) {slot : OptionsSlot}
    (isThere : engine.store.slot? binding.key = some slot) :
    engine.fieldOptions binding.key = [] ∨ engine.fieldOptions binding.key = slot.options := by
  obtain ⟨place, isAt⟩ := isAt_of_mem member
  have located : DeclarativeForm.locate engine.form.fields binding.path = some _ :=
    (isAt.addresses named).locateFrom
  unfold fieldOptions locate parsePath
  cases done : parse binding.key with
  | error fault => exact Or.inl rfl
  | ok path =>
      rw [eq_path_of_parse_key named member done]
      dsimp only
      rw [located]
      have fed : binding.field.optionsSource.isNone = false := by
        rw [isAt.source]
        rfl
      have same : engine.store.slot? binding.path.text = some slot := isThere
      simp only [fed, Bool.false_eq_true, if_false, same]
      exact Or.inr trivial

namespace Session

theorem Reachable.settled {mounting : Engine.Mounting} {session : Session}
    (reachable : Reachable mounting session) (named : WellNamed mounting.form.fields)
    (steady : session.engine.gaveUp = false) : session.engine.Settled := by
  have either : session.engine.Settled ∨ session.engine.gaveUp = true := by
    refine reachable.derived named (fun engine => engine.Settled ∨ engine.gaveUp = true) ?_ ?_
    · intro engine touched form
      rw [← form] at named
      exact engine.refreshDerived_settled touched named
    · intro before after rests settledOr
      rcases settledOr with settled | given
      · exact Or.inl (rests.settled settled)
      · exact Or.inr (Engine.gaveUp_of_prefix rests.notices given)
  rcases either with settled | given
  · exact settled
  · rw [steady] at given
    cases given

/-- In every session without a give-up, the slot of every visible field fed by a source is requested
for its current arguments, it is empty and idle if one of them is missing, and the options offered
for the field were delivered for a ticket with exactly these arguments. -/
theorem Reachable.options_current {mounting : Engine.Mounting} {session : Session}
    (reachable : Reachable mounting session) (named : WellNamed mounting.form.fields)
    (steady : session.engine.gaveUp = false) {binding : OptionBinding}
    (member : binding ∈ optionBindings mounting.form.fields session.engine.values) :
    ∃ slot, session.engine.store.slot? binding.key = some slot ∧
      (slot.requestedFor == binding.args) = true ∧
      (binding.args = none →
        slot.requestedFor = none ∧ slot.options = [] ∧ slot.loading = false) ∧
      (session.engine.fieldOptions binding.key ≠ [] →
        ∃ ticket, (ticket, session.engine.fieldOptions binding.key) ∈ session.log.delivered ∧
          (binding.args == some ticket.args) = true) := by
  rw [← reachable.form] at member
  obtain ⟨slot, isThere, requested⟩ := reachable.settled named steady binding member
  have accounts := reachable.accounted.slots (.field binding.key) slot isThere
  refine ⟨slot, isThere, requested, ?_, ?_⟩
  · intro missing
    rw [missing] at requested
    have nothing : slot.requestedFor = none := by
      cases asked : slot.requestedFor with
      | none => rfl
      | some args =>
          rw [asked] at requested
          cases requested
    exact ⟨nothing, (accounts.sound nothing).2.1, (accounts.sound nothing).1⟩
  · intro offered
    rw [← reachable.form] at named
    rcases Engine.fieldOptions_eq named member isThere with nothing | same
    · exact absurd nothing offered
    · rw [same] at offered ⊢
      obtain ⟨ticket, delivered, asked⟩ := accounts.origin offered
      exact ⟨ticket, delivered, BEq.trans (BEq.symm requested) asked⟩

def italianCities : List HostStep :=
  [.operate (.setValue "country" (.string "Italy")), .take,
    .complete ⟨.field "city", 4, "options", [.string "Italy"]⟩ (.ok [⟨"rome", "Rome", none, none⟩])]

theorem italianCities_current :
    ∃ ticket, (ticket, [⟨"rome", "Rome", none, none⟩]) ∈
        ((mount countryAndCity).run italianCities).log.delivered ∧
      (some [.string "Italy"] == some ticket.args) = true := by
  have reachable : Reachable countryAndCity ((mount countryAndCity).run italianCities) :=
    .run .mounted (by decide +kernel)
  have named : WellNamed countryAndCity.form.fields := by decide +kernel
  have steady : ((mount countryAndCity).run italianCities).engine.gaveUp = false := by
    decide +kernel
  have offered : ((mount countryAndCity).run italianCities).engine.fieldOptions "city" =
      [⟨"rome", "Rome", none, none⟩] := by
    decide +kernel
  have listed : (optionBindings countryAndCity.form.fields
      ((mount countryAndCity).run italianCities).engine.values).any (fun binding =>
        decide (binding.key = "city" ∧ binding.args = some [.string "Italy"])) = true := by
    decide +kernel
  generalize (mount countryAndCity).run italianCities = session at *
  obtain ⟨binding, member, isCity⟩ := List.any_eq_true.mp listed
  obtain ⟨key, args⟩ := of_decide_eq_true isCity
  obtain ⟨_, _, _, _, delivered⟩ := Reachable.options_current reachable named steady member
  rw [key, args, offered] at delivered
  exact delivered (List.cons_ne_nil _ _)

end Session

end DeclarativeForm
