import DeclarativeForm.Proofs.Tree.Address
import DeclarativeForm.Tree.Binding

/-!
Bindings of a form with good names. A binding belongs to a leaf that is visited, so its key is read
as its path or not at all, and the key tells the bindings of a form apart.
-/

set_option autoImplicit false

namespace DeclarativeForm

open FieldPath

def Visit.binding? (values : Json) (visit : Visit) : Option OptionBinding :=
  match visit.node with
  | .leaf leaf =>
    leaf.optionsSource.map fun source =>
      { path := visit.path, field := leaf, source,
        args := source.argsIn (visit.context.scope values) }
  | _ => none

theorem optionBindings_eq (fields : List Node) (values : Json) :
    optionBindings fields values =
      (walk .visible values .root fields).filterMap (Visit.binding? values) := rfl

structure OptionBinding.IsAt (fields : List Node) (values : Json) (binding : OptionBinding)
    (place : Context) : Prop where
  visited : ⟨.leaf binding.field, binding.path, place⟩ ∈ walk .everything values .root fields
  source : binding.field.optionsSource = some binding.source
  args : binding.args = binding.source.argsIn (place.scope values)

theorem isAt_of_binding? {fields : List Node} {values : Json} {visit : Visit}
    {binding : OptionBinding} (visited : visit ∈ walk .everything values .root fields)
    (made : visit.binding? values = some binding) :
    binding.IsAt fields values visit.context := by
  obtain ⟨node, path, place⟩ := visit
  cases node with
  | leaf field =>
      obtain ⟨source, isSource, rfl⟩ := Option.map_eq_some_iff.mp made
      exact ⟨visited, isSource, rfl⟩
  | group head inner => cases made
  | repeatable head template => cases made
  | flow field => cases made

variable {fields : List Node} {values : Json}

theorem isAt_of_mem {binding : OptionBinding} (member : binding ∈ optionBindings fields values) :
    ∃ place, binding.IsAt fields values place := by
  rw [optionBindings_eq] at member
  obtain ⟨visit, visited, made⟩ := List.mem_filterMap.mp member
  exact ⟨visit.context, isAt_of_binding? ((walk_sublist values .root fields).subset visited) made⟩

theorem length_optionBindings_le (fields : List Node) (values : Json) :
    (optionBindings fields values).length ≤ (walk .everything values .root fields).length := by
  rw [optionBindings_eq]
  exact Nat.le_trans (List.length_filterMap_le _ _) (walk_sublist values .root fields).length_le

namespace OptionBinding.IsAt

variable {binding other : OptionBinding} {place otherPlace : Context}

theorem addresses (isAt : binding.IsAt fields values place) (named : WellNamed fields) :
    Addresses fields .root binding.path.segments ⟨.leaf binding.field, place⟩ :=
  (addresses_of_mem_walk named isAt.visited rfl).1

theorem isPlain (isAt : binding.IsAt fields values place) (named : WellNamed fields) :
    IsPlain binding.path.segments :=
  (isAt.addresses named).isPlain named rfl

theorem eq_of_path_eq (isAt : binding.IsAt fields values place)
    (otherAt : other.IsAt fields values otherPlace) (named : WellNamed fields)
    (same : binding.path = other.path) : binding = other := by
  have here := (isAt.addresses named).locateFrom
  have there := (otherAt.addresses named).locateFrom
  rw [same, there] at here
  obtain ⟨path, field, source, args⟩ := binding
  obtain ⟨otherPath, otherField, otherSource, otherArgs⟩ := other
  cases here
  have sources := isAt.source.symm.trans otherAt.source
  cases sources
  cases same
  have equal : args = otherArgs := isAt.args.trans otherAt.args.symm
  rw [equal]

end OptionBinding.IsAt

/-- The key of a binding is read as its path or not at all. -/
theorem eq_path_of_parse_key (named : WellNamed fields) {binding : OptionBinding}
    (member : binding ∈ optionBindings fields values) {path : FieldPath}
    (done : parse binding.key = .ok path) : path = binding.path := by
  obtain ⟨place, isAt⟩ := isAt_of_mem member
  exact eq_of_parse_text (isAt.isPlain named).isWritable done

theorem eq_of_key_eq (named : WellNamed fields) {binding other : OptionBinding}
    (member : binding ∈ optionBindings fields values)
    (otherMember : other ∈ optionBindings fields values) (same : binding.key = other.key) :
    binding = other := by
  obtain ⟨place, isAt⟩ := isAt_of_mem member
  obtain ⟨otherPlace, otherAt⟩ := isAt_of_mem otherMember
  exact isAt.eq_of_path_eq otherAt named
    (text_injective (isAt.isPlain named).isWritable (otherAt.isPlain named).isWritable same)

end DeclarativeForm
