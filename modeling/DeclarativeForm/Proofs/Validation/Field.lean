import DeclarativeForm.Proofs.Items.Keys
import DeclarativeForm.Proofs.Tree.Exposure
import DeclarativeForm.Proofs.Validation.Derivation

/-!
Validating one field. The check of a field decides what is recorded under the keys of its node and
leaves everything else alone. For a node that a walk over what is visible comes to, it records what
validation of the whole form would. It asks for the condition of the node alone: a node that is not
exposed is checked too, and has errors that validation of the whole form does not find.
-/

set_option autoImplicit false

namespace DeclarativeForm

open FieldPath

namespace Engine

/-! ### Recording errors -/

private theorem find?_recordOne {store : Store} (distinct : Keyed.Distinct store.errors)
    (errors : ErrorMap) (first key : String) :
    (recordErrors store [first] errors).errors.find? key =
      if key = first then errors.find? key else store.errors.find? key := by
  rw [recordErrors, List.foldl_cons, List.foldl_nil]
  cases found : errors.find? first with
  | none =>
      by_cases same : key = first
      · rw [if_pos same, same, found]
        exact Keyed.find?_erase_self distinct
      · rw [if_neg same]
        exact Keyed.find?_erase_other same _
  | some message =>
      by_cases same : key = first
      · rw [if_pos same, same, found]
        exact Keyed.find?_put_self first message _
      · rw [if_neg same]
        exact Keyed.find?_put_other same message _

/-- Under the keys that are recorded the new errors are found, under all others the old ones. -/
theorem find?_recordErrors {store : Store} (distinct : Keyed.Distinct store.errors)
    (keys : List String) (errors : ErrorMap) (key : String) :
    (recordErrors store keys errors).errors.find? key =
      if key ∈ keys then errors.find? key else store.errors.find? key := by
  induction keys generalizing store with
  | nil => rw [if_neg List.not_mem_nil]; rfl
  | cons first rest ih =>
      -- A key may be recorded twice, as ids of steps may repeat; both times the same is recorded.
      have split : recordErrors store (first :: rest) errors =
          recordErrors (recordErrors store [first] errors) rest errors := rfl
      have within := Orderly.within_recordErrors ⟨distinct, fun _ _ => trivial⟩
        (fun key (_ : key ∈ Keyed.keys errors) => trivial) [first]
      rw [split, ih within.distinct, find?_recordOne distinct]
      by_cases later : key ∈ rest
      · rw [if_pos later, if_pos (List.mem_cons_of_mem _ later)]
      · rw [if_neg later]
        by_cases same : key = first
        · rw [if_pos same, if_pos (same ▸ List.mem_cons_self)]
        · have absent : key ∉ first :: rest := fun member =>
            (List.mem_cons.mp member).elim same later
          rw [if_neg same, if_neg absent]

theorem filter_recordErrors {store : Store} {keep : String → Bool} {keys : List String}
    (dropped : ∀ key ∈ keys, keep key = false) (errors : ErrorMap) :
    (recordErrors store keys errors).errors.filter (fun entry => keep entry.1) =
      store.errors.filter fun entry => keep entry.1 := by
  unfold recordErrors
  induction keys generalizing store with
  | nil => rfl
  | cons first rest ih =>
      have here := dropped first List.mem_cons_self
      have later := fun key member => dropped key (List.mem_cons_of_mem _ member)
      rw [List.foldl_cons]
      cases errors.find? first with
      | none => exact (ih later).trans (Keyed.filter_erase here _)
      | some message => exact (ih later).trans (Keyed.filter_put here message _)

/-! ### Checking a field -/

variable {engine : Engine} {text : String} {path : FieldPath} {located : Located}

theorem locate_of_addresses (parsed : parse text = .ok path)
    (addresses : Addresses engine.form.fields .root path.segments located) :
    engine.locate text = .ok (path, located) := by
  rw [locate, parsePath, parsed]
  dsimp only
  rw [DeclarativeForm.locate, addresses.locateFrom]

theorem isVisible_eq (isThere : engine.locate text = .ok (path, located)) :
    engine.isVisible text =
      isShown located.node.showWhen (located.context.scope engine.values) := by
  rw [isVisible, isThere]

theorem validateField_eq (isThere : engine.locate text = .ok (path, located)) :
    engine.validateField text =
      (engine.recordLocated path.text located,
        .ok ((engine.recordLocated path.text located).error? path.text)) := by
  rw [validateField, isThere]

/-- The check of a field records what its node has on its own, if the node is shown. -/
theorem error?_recordLocated (isThere : engine.locate text = .ok (path, located))
    (distinct : Keyed.Distinct engine.store.errors) {key : String}
    (owned : key ∈ keysOf path.text located.node) :
    (engine.recordLocated path.text located).error? key =
      if engine.isVisible text then
        Keyed.find? key
          (Keyed.ofList (engine.snapshot.errorsOf ⟨located.node, path, located.context⟩))
      else none := by
  have visit : Snapshot.visitOf located = ⟨located.node, path, located.context⟩ := by
    rw [Snapshot.visitOf, (locate_eq_ok isThere).2.pathFor_eq]
    rfl
  have recorded : (engine.recordLocated path.text located).error? key =
      (engine.snapshot.validateLocated located).find? key :=
    (find?_recordErrors distinct _ _ key).trans (if_pos owned)
  rw [recorded, Snapshot.validateLocated, visit, isVisible_eq isThere]
  exact apply_ite (Keyed.find? key) _ _ _

theorem mem_walk_visible_iff_isVisible (isThere : engine.locate text = .ok (path, located))
    (single : located.node.isGroup = false) :
    ⟨located.node, path, located.context⟩ ∈ walk .visible engine.values .root engine.form.fields ↔
      engine.isVisible text = true ∧
        Exposed engine.values engine.form.fields .root located.node located.context := by
  rw [isVisible_eq isThere, mem_walk_visible_iff]
  constructor
  · intro visited
    exact ⟨visited.shown, visited.exposed⟩
  · rintro ⟨shown, exposed⟩
    refine ⟨exposed, shown, ?_⟩
    rw [Context.pathOf, if_neg (Bool.eq_false_iff.mp single), (locate_eq_ok isThere).2.pathFor_eq]
    rfl

/-- Some keys have the errors that validation of the whole form finds; all others stay, as do the
values, the flows, the options and the queue. -/
structure ValidatesOnly (engine after : Engine) (keys : List String) : Prop where
  own : ∀ key ∈ keys, after.error? key = engine.validateAll.error? key
  others : after.store.errors.filter (fun entry => entry.1 ∉ keys) =
    engine.store.errors.filter fun entry => entry.1 ∉ keys
  values : after.values = engine.values
  flows : after.store.flows = engine.store.flows
  slots : after.store.slots = engine.store.slots
  pending : after.pending = engine.pending

theorem recordLocated_validatesOnly (isThere : engine.locate text = .ok (path, located))
    (named : WellNamed engine.form.fields) (distinct : Keyed.Distinct engine.store.errors)
    (single : located.node.isGroup = false)
    (visited : ⟨located.node, path, located.context⟩ ∈
      walk .visible engine.values .root engine.form.fields) :
    engine.ValidatesOnly (engine.recordLocated path.text located)
      (keysOf path.text located.node) := by
  have tables := recordErrors_tables (keysOf path.text located.node)
    (engine.snapshot.validateLocated located) engine.store
  have dropped : ∀ key ∈ keysOf path.text located.node,
      decide (key ∉ keysOf path.text located.node) = false := by
    intro key owned
    exact decide_eq_false (not_not_intro owned)
  refine ⟨fun key owned => ?_, filter_recordErrors dropped _, recordErrors_values _ _ _, tables.2.1,
    tables.1, rfl⟩
  have shown := ((mem_walk_visible_iff_isVisible isThere single).mp visited).1
  have whole : engine.validateAll.error? key = Keyed.find? key
      (Keyed.ofList (engine.snapshot.errorsOf ⟨located.node, path, located.context⟩)) :=
    Snapshot.find?_validateAll_of_visited named (locate_eq_ok isThere).2 single visited owned
  rw [error?_recordLocated isThere distinct owned, if_pos shown, whole]

end Engine

/-! ### Sessions -/

namespace Session

variable {mounting : Engine.Mounting} {session : Session} {text : String}

/-- The check of a field that is visible records and answers what validation of the whole form finds
under the keys of its node. The other errors, the values, the flows, the options and the queue stay
as they are. -/
theorem Reachable.validateField_agrees (reachable : Reachable mounting session)
    (named : WellNamed mounting.form.fields) {visit : Visit}
    (visited : visit ∈ walk .visible session.engine.values .root mounting.form.fields)
    (single : visit.node.isGroup = false) (parsed : parse text = .ok visit.path) :
    (session.engine.validateField text).2 =
        .ok (session.engine.validateAll.error? visit.path.text) ∧
      session.engine.ValidatesOnly (session.engine.validateField text).1
        (Engine.keysOf visit.path.text visit.node) := by
  have distinct := (reachable.orderly named).errors.distinct
  rw [← reachable.form] at named visited
  have everywhere := (walk_sublist session.engine.values .root session.engine.form.fields).subset
    visited
  have isThere := Engine.locate_of_addresses parsed
    (addresses_of_mem_walk named everywhere single).1
  have only := Engine.recordLocated_validatesOnly isThere named distinct single visited
  rw [Engine.validateField_eq isThere]
  refine ⟨?_, only⟩
  rw [only.own _ (by cases visit.node <;> exact List.mem_cons_self)]

def sentOrders : Engine.Mounting :=
  .ofFields orderFields (.object [("sent", .array [.object [], .object []])])

/-- The place of the second order is checked, and the city it lacks is found under the step. -/
theorem sentOrders_checked :
    ((mount sentOrders).engine.validateField "sent[1].place").1.error? "sent[1].place.city" =
      some "City is required" := by
  have named : WellNamed sentOrders.form.fields := by decide +kernel
  let order := (key "sent").item 1
  let visit : Visit := ⟨.flow placeFlow, order.child "place", ⟨order, [order]⟩⟩
  have parsed : parse "sent[1].place" = .ok visit.path := by decide +kernel
  have visited : visit ∈ walk .visible (mount sentOrders).engine.values .root
      sentOrders.form.fields := by
    refine mem_walk_visible_iff.mpr ⟨?_, rfl, rfl⟩
    refine .inSection (List.mem_singleton_self _) rfl ?_
    refine .inItem (List.mem_singleton_self _) rfl ?_ (.here (List.mem_singleton_self _))
    decide +kernel
  have owned : "sent[1].place.city" ∈ Engine.keysOf visit.path.text visit.node := by
    decide +kernel
  have found : (mount sentOrders).engine.validateAll.error? "sent[1].place.city" =
      some "City is required" := by decide +kernel
  have agrees := Reachable.validateField_agrees .mounted named visited rfl parsed
  exact (agrees.2.own _ owned).trans found

/-- Whether a node is visible is decided by its own condition alone, and so is whether a field that
loses the focus is checked. A walk over what is visible, and with it validation of the whole form,
asks for the conditions around the node too: it comes to the node if the node is exposed as well. -/
theorem Reachable.visited_iff_isVisible_and_exposed (reachable : Reachable mounting session)
    (named : WellNamed mounting.form.fields) {path : FieldPath} {located : Located}
    (isThere : session.engine.locate text = .ok (path, located))
    (single : located.node.isGroup = false) :
    let visit : Visit := ⟨located.node, path, located.context⟩
    let own := Keyed.ofList (session.engine.snapshot.errorsOf visit)
    (visit ∈ walk .visible session.engine.values .root mounting.form.fields ↔
        session.engine.isVisible text = true ∧
          Exposed session.engine.values mounting.form.fields .root visit.node visit.context) ∧
      ∀ key ∈ Engine.keysOf path.text located.node, ∀ message,
        (session.engine.trigger ≠ .submit →
          ((session.engine.blur text).1.error? key = some message ↔
            session.engine.isVisible text = true ∧ Keyed.find? key own = some message)) ∧
        (session.engine.validateAll.error? key = some message ↔
          (session.engine.isVisible text = true ∧
            Exposed session.engine.values mounting.form.fields .root visit.node visit.context) ∧
          Keyed.find? key own = some message) := by
  intro visit own
  have distinct := (reachable.orderly named).errors.distinct
  rw [← reachable.form] at named ⊢
  have visited := Engine.mem_walk_visible_iff_isVisible isThere single
  refine ⟨visited, fun key owned message => ⟨fun onBlur => ?_, ?_⟩⟩
  · rw [Engine.blur, if_neg onBlur, Engine.validateField_eq isThere,
      Engine.error?_recordLocated isThere distinct owned]
    by_cases shown : session.engine.isVisible text = true
    · rw [if_pos shown]
      exact (and_iff_right shown).symm
    · rw [if_neg shown]
      exact ⟨fun nothing => (nomatch nothing), fun found => absurd found.1 shown⟩
  · by_cases comes : visit ∈ walk .visible session.engine.values .root session.engine.form.fields
    · have whole : session.engine.validateAll.error? key = Keyed.find? key own :=
        Snapshot.find?_validateAll_of_visited named (Engine.locate_eq_ok isThere).2 single comes
          owned
      rw [whole]
      exact (and_iff_right (visited.mp comes)).symm
    · have nothing : session.engine.validateAll.error? key = none :=
        Snapshot.find?_validateAll_of_unvisited named (Engine.locate_eq_ok isThere).2 single comes
          owned
      rw [nothing]
      exact ⟨fun found => (nomatch found), fun found => absurd (visited.mpr found.1) comes⟩

def requiredCity : Leaf :=
  { Leaf.fed "city" (.dependingOn []) with
    kind := .text
    optionsSource := none
    validation :=
      some ⟨some ⟨.bool true, "City is required"⟩, none, none, none, none, none, none⟩ }

/-- A city that is required, in a section that is shown when more is asked for. -/
def hiddenDetails : Engine.Mounting :=
  .ofFields
    [.leaf { Leaf.fed "more" (.dependingOn []) with kind := .switch, optionsSource := none },
      .group ⟨"details", none, none, none, false, false, none,
          some ⟨[⟨"more", .isTruthy, .null⟩], .all⟩⟩
        [.leaf requiredCity]]
    (.object [])

/-- The section is hidden, and validation of the form passes. But the city in it counts as visible,
and when it loses the focus it has an error. -/
theorem hiddenDetails_checked :
    (mount hiddenDetails).engine.isVisible "city" = true ∧
      ((mount hiddenDetails).engine.blur "city").1.error? "city" = some "City is required" ∧
      (mount hiddenDetails).engine.validateAll.error? "city" = none := by
  let visit : Visit := ⟨.leaf requiredCity, key "city", .root⟩
  have named : WellNamed hiddenDetails.form.fields := by decide +kernel
  have onBlur : (mount hiddenDetails).engine.trigger ≠ .submit := by decide +kernel
  have shown : (mount hiddenDetails).engine.isVisible "city" = true := by decide +kernel
  have isThere : (mount hiddenDetails).engine.locate "city" =
      .ok (key "city", ⟨.leaf requiredCity, .root⟩) := by
    have parsed : parse "city" = .ok (key "city") := by decide +kernel
    exact Engine.locate_of_addresses parsed (.here rfl)
  have own : Keyed.find? "city"
      (Keyed.ofList ((mount hiddenDetails).engine.snapshot.errorsOf visit)) =
        some "City is required" := by decide +kernel
  have owned : "city" ∈ Engine.keysOf visit.path.text visit.node := by decide +kernel
  have texts : (walk .visible (mount hiddenDetails).engine.values .root
      hiddenDetails.form.fields).map (·.path.text) = ["more"] := by decide +kernel
  obtain ⟨visited, errors⟩ :=
    Reachable.visited_iff_isVisible_and_exposed .mounted named isThere rfl
  refine ⟨shown, ((errors "city" owned _).1 onBlur).mpr ⟨shown, own⟩, ?_⟩
  cases found : (mount hiddenDetails).engine.validateAll.error? "city" with
  | none => rfl
  | some message =>
      have comes := visited.mpr ((errors "city" owned message).2.mp found).1
      have listed := List.mem_map_of_mem (f := fun visit : Visit => visit.path.text) comes
      rw [texts] at listed
      exact absurd listed (by decide +kernel)

end Session

end DeclarativeForm
