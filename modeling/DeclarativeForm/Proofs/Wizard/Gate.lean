import DeclarativeForm.Proofs.Validation.Field
import DeclarativeForm.Proofs.Validation.Portion
import DeclarativeForm.Proofs.Wizard.Position

/-!
The gate between the steps of a wizard. A step is left forwards when validation of its nodes finds
nothing. Whether it does or not, what is found takes the place of the errors under the keys of the
step: the names of its nodes lead to all these keys and to no others of the form. Leaving the last
step forwards and any step backwards is not guarded and changes no errors.
-/

set_option autoImplicit false

namespace DeclarativeForm

/-- What is found after a merge: the new errors, and of the old ones those that are kept. -/
theorem Store.find?_mergeErrorsUnder {errors : ErrorMap} (distinct : Keyed.Distinct errors)
    (store : Store) (ancestors : List String) (key : String) :
    (store.mergeErrorsUnder ancestors errors).errors.find? key =
      (errors.find? key).or
        (if ancestors.any (fun ancestor => isUnder key ancestor) then none
          else store.errors.find? key) := by
  have last : Keyed.find? key errors.reverse = errors.find? key := by
    rw [← Keyed.find?_ofList, Keyed.ofList_eq_self distinct]
  have kept := Keyed.find?_filter
    (fun key => !ancestors.any fun ancestor => isUnder key ancestor) key store.errors
  rw [mergeErrorsUnder]
  refine (Keyed.find?_putAll key errors _).trans ?_
  rw [last, kept]
  cases ancestors.any fun ancestor => isUnder key ancestor <;> rfl

namespace Engine

structure RevisesErrors (engine after : Engine) (nodes : List Node) (errors : ErrorMap) :
    Prop where
  within : ∀ key ∈ Keyed.keys errors, IsKey nodes key
  own : ∀ key, IsKey nodes key → after.error? key = errors.find? key
  others : ∀ key, ¬IsKey nodes key → after.error? key = engine.error? key
  values : after.values = engine.values
  flows : after.store.flows = engine.store.flows
  slots : after.store.slots = engine.store.slots

variable {engine : Engine} {fields : List Node}

theorem validateStep_revises (orderly : engine.Orderly fields) (named : WellNamed fields) :
    engine.RevisesErrors engine.validateStep.1 engine.currentNodes
      (engine.snapshot.validateNodes engine.currentNodes) := by
  rw [validateStep_eq]
  have portion := engine.isPortion_currentNodes
  rw [orderly.form] at portion
  have within : ∀ key ∈ Keyed.keys (engine.snapshot.validateNodes engine.currentNodes),
      IsKey engine.currentNodes key := fun _ member =>
    portion.isKey_of_mem_validateNodes named member
  have distinct : Keyed.Distinct (engine.snapshot.validateNodes engine.currentNodes) :=
    Keyed.distinct_ofList _
  have merged := Store.find?_mergeErrorsUnder distinct engine.store (ownedKeys engine.currentNodes)
  refine ⟨within, fun key isKey => ?_, fun key isOther => ?_, rfl, rfl, rfl⟩
  · refine (merged key).trans ?_
    rw [if_pos ((portion.isKey_iff named).mp isKey).2]
    exact Option.or_none
  · have nothing : (engine.snapshot.validateNodes engine.currentNodes).find? key = none :=
      Keyed.find?_eq_none_iff.mpr fun member => isOther (within key member)
    refine (merged key).trans ?_
    by_cases under : (ownedKeys engine.currentNodes).any (fun name => isUnder key name) = true
    · -- No key of the form is under the names and not of the portion, so there was nothing here.
      have foreign : ¬IsKey fields key := fun isKey =>
        isOther ((portion.isKey_iff named).mpr ⟨isKey, under⟩)
      have absent : engine.error? key = none :=
        Keyed.find?_eq_none_iff.mpr fun member => foreign (orderly.errors.keys key member)
      rw [if_pos under, absent, Option.or_none]
      exact nothing
    · rw [if_neg under]
      exact (congrArg (Option.or · _) nothing).trans Option.none_or

/-! ### Leaving a step -/

section Leaving

variable (further : engine.navigator.current + 1 < engine.navigator.total)

include further

private theorem isLast_eq_false : engine.navigator.isLast = false :=
  beq_false_of_ne (Nat.ne_of_lt further)

theorem nextStep_blocked
    (found : engine.snapshot.validateNodes engine.currentNodes ≠ []) :
    engine.nextStep = (engine.validateStep.1,
      .blocked (engine.snapshot.validateNodes engine.currentNodes).length) := by
  have some : 0 < (engine.snapshot.validateNodes engine.currentNodes).length :=
    List.length_pos_iff.mpr found
  rw [nextStep, isLast_eq_false further, validateStep_eq]
  exact if_pos some

theorem nextStep_moved (clean : engine.snapshot.validateNodes engine.currentNodes = []) :
    engine.nextStep =
      (engine.validateStep.1.move ⟨engine.navigator.current + 1, engine.navigator.total, further⟩
          (.moved engine.navigator.current (engine.navigator.current + 1)),
        .moved engine.navigator.current (engine.navigator.current + 1)) := by
  have none : ¬0 < engine.validateStep.2 := by
    rw [validateStep_eq, clean]
    exact Nat.lt_irrefl 0
  have advanced : engine.validateStep.1.navigator.advance =
      (⟨engine.navigator.current + 1, engine.navigator.total, further⟩,
        .moved engine.navigator.current (engine.navigator.current + 1)) := dif_pos further
  rw [nextStep, isLast_eq_false further]
  dsimp only
  rw [if_neg none, advanced]
  rfl

end Leaving

/-- What leaving a step forwards comes to, given the nodes of the step. -/
structure Gates (engine : Engine) (nodes : List Node) : Prop where
  passes : engine.snapshot.validateNodes nodes = [] →
    engine.nextStep.2 = .moved engine.navigator.current (engine.navigator.current + 1) ∧
      engine.nextStep.1.navigator.current = engine.navigator.current + 1
  blocks : engine.snapshot.validateNodes nodes ≠ [] →
    engine.nextStep.2 = .blocked (engine.snapshot.validateNodes nodes).length ∧
      engine.nextStep.1.navigator.current = engine.navigator.current
  revises : engine.RevisesErrors engine.nextStep.1 nodes (engine.snapshot.validateNodes nodes)

theorem nextStep_gates (orderly : engine.Orderly fields) (named : WellNamed fields)
    (further : engine.navigator.current + 1 < engine.navigator.total) :
    engine.Gates engine.currentNodes := by
  have revised := validateStep_revises orderly named
  refine ⟨fun clean => ?_, fun found => ?_, ?_⟩
  · rw [nextStep_moved further clean]
    exact ⟨rfl, rfl⟩
  · rw [nextStep_blocked further found]
    exact ⟨rfl, rfl⟩
  · by_cases clean : engine.snapshot.validateNodes engine.currentNodes = []
    · rw [nextStep_moved further clean]
      exact ⟨revised.within, revised.own, revised.others, revised.values, revised.flows,
        revised.slots⟩
    · rw [nextStep_blocked further clean]
      exact revised

theorem previousStep_errors (engine : Engine) :
    engine.previousStep.1.store.errors = engine.store.errors ∧
      engine.previousStep.1.values = engine.values := by
  unfold previousStep
  obtain ⟨navigator, transition⟩ := engine.navigator.retreat
  cases transition <;> exact ⟨rfl, rfl⟩

end Engine

/-! ### Sessions -/

/-- A wizard is always at one of its steps. Where there is a further step, leaving the current one
forwards is gated by the nodes that it lists. On the last step nothing happens, and going back
changes neither errors nor values. -/
theorem Session.Reachable.nextStep_gated {mounting : Engine.Mounting} {session : Session}
    (reachable : Reachable mounting session) (named : WellNamed mounting.form.fields) :
    session.engine.navigator.current < mounting.totalSteps ∧
      (session.engine.navigator.current + 1 < mounting.totalSteps →
        ∃ step, mounting.form.steps[session.engine.navigator.current]? = some step ∧
          session.engine.Gates (resolveStep mounting.form.fields step.fields)) ∧
      (session.engine.navigator.current + 1 = mounting.totalSteps →
        session.engine.nextStep = (session.engine, .boundary)) ∧
      session.engine.previousStep.1.store.errors = session.engine.store.errors ∧
      session.engine.previousStep.1.values = session.engine.values := by
  have orderly := reachable.orderly named
  have total := reachable.totalSteps
  have inRange := session.engine.navigator.inRange
  rw [total] at inRange
  refine ⟨inRange, fun further => ?_, fun last => ?_, session.engine.previousStep_errors⟩
  · have isWizard : mounting.form.isWizard = true := by
      by_contra standard
      rw [Engine.Mounting.totalSteps, if_neg standard] at further
      omega
    rw [Engine.Mounting.totalSteps, if_pos isWizard] at inRange
    obtain ⟨step, isStep⟩ : ∃ step,
        mounting.form.steps[session.engine.navigator.current]? = some step :=
      ⟨_, List.getElem?_eq_getElem inRange⟩
    have nodes : session.engine.currentNodes = resolveStep mounting.form.fields step.fields := by
      rw [Engine.currentNodes, Engine.currentStep?, reachable.form, if_pos isWizard, isStep]
    rw [← total] at further
    refine ⟨step, isStep, ?_⟩
    rw [← nodes]
    exact Engine.nextStep_gates orderly named further
  · have isLast : session.engine.navigator.isLast = true := beq_iff_eq.mpr (last.trans total.symm)
    rw [Engine.nextStep, if_pos isLast]

def cityStepOfWizard : WizardStep := ⟨"where", "Where", none, ["city"]⟩

def cityWizard : Engine.Mounting :=
  let plain := Engine.Mounting.ofFields
    [.group ⟨"details", none, none, none, false, false, none, none⟩ [.leaf Session.requiredCity],
      .repeatable (.named "contacts") []]
    (.object [])
  { plain with form := { plain.form with
      kind := .wizard
      steps := [cityStepOfWizard, ⟨"who", "Who", none, ["contacts"]⟩] } }

/-- The city is missing, and so the first step is not left. -/
theorem cityWizard_blocked :
    (Session.mount cityWizard).engine.nextStep.2 = .blocked 1 ∧
      (Session.mount cityWizard).engine.nextStep.1.navigator.current = 0 ∧
      (Session.mount cityWizard).engine.nextStep.1.error? "city" = some "City is required" := by
  have named : WellNamed cityWizard.form.fields := by decide +kernel
  have first : (Session.mount cityWizard).engine.navigator.current = 0 := by decide +kernel
  have total : cityWizard.totalSteps = 2 := by decide +kernel
  have found : (Session.mount cityWizard).engine.snapshot.validateNodes
      (resolveStep cityWizard.form.fields cityStepOfWizard.fields) =
        [("city", "City is required")] := by decide +kernel
  obtain ⟨_, gated, _⟩ := Session.Reachable.nextStep_gated .mounted named
  obtain ⟨step, isStep, gates⟩ := gated (by rw [first, total]; decide)
  rw [first] at isStep
  cases isStep
  obtain ⟨blocked, stays⟩ := gates.blocks (by rw [found]; exact List.cons_ne_nil _ _)
  have within := gates.revises.within "city" (by rw [found]; exact List.mem_cons_self)
  have own := gates.revises.own "city" within
  rw [found] at blocked own
  rw [first] at stays
  exact ⟨blocked, stays, own⟩

end DeclarativeForm
