import DeclarativeForm.Proofs.Tree.Key
import DeclarativeForm.Proofs.Validation.Report

/-!
Who owns a key of the error map. A leaf and a repeatable own the text of their path; a flow owns the
texts of its steps too, whatever their ids are. With good names no key has two owners, and a node
has errors under its own keys only. So what validation puts under a key is what the owner of the key
has there on its own.
-/

set_option autoImplicit false

namespace DeclarativeForm

open FieldPath

variable {fields : List Node}

/-! ### Keys of nodes -/

theorem exists_tail_of_mem_keysOf {path : FieldPath} (inside : path.segments ≠ []) {node : Node}
    {key : String} (owned : key ∈ Engine.keysOf path.text node) :
    ∃ tail, IsTail tail ∧ key = text ⟨path.segments ++ tail⟩ := by
  have ofPath (same : key = path.text) : ∃ tail, IsTail tail ∧ key = text ⟨path.segments ++ tail⟩ :=
    ⟨[], .nil, by rw [same, List.append_nil]⟩
  cases node with
  | leaf field => exact ofPath (List.mem_singleton.mp owned)
  | group head inner => exact ofPath (List.mem_singleton.mp owned)
  | repeatable head template => exact ofPath (List.mem_singleton.mp owned)
  | flow flow =>
      rcases List.mem_cons.mp owned with same | ofStep
      · exact ofPath same
      · obtain ⟨step, _, rfl⟩ := List.mem_map.mp ofStep
        exact ⟨[.key step.id], .step step.id, (text_child inside step.id).symm⟩

theorem Addresses.eq_of_shared_key {path other : FieldPath} {located peer : Located} {key : String}
    (addresses : Addresses fields .root path.segments located)
    (others : Addresses fields .root other.segments peer) (named : WellNamed fields)
    (single : located.node.isGroup = false) (otherSingle : peer.node.isGroup = false)
    (owned : key ∈ Engine.keysOf path.text located.node)
    (shared : key ∈ Engine.keysOf other.text peer.node) : path = other ∧ located = peer := by
  obtain ⟨tail, isTail, same⟩ := exists_tail_of_mem_keysOf addresses.ne_nil owned
  obtain ⟨ending, isEnding, rfl⟩ := exists_tail_of_mem_keysOf others.ne_nil shared
  -- In the path of a node a name only follows an index, the name of a step follows that of its flow.
  -- So the text shows where the path of the node ends, whatever the id of the step is.
  have segments : path.segments = other.segments :=
    ((addresses.alternating named single).characters_injective (others.alternating named otherSingle)
      isTail isEnding (String.ofList_injective same.symm)).1
  have located := addresses.locateFrom
  rw [segments, others.locateFrom] at located
  exact ⟨congrArg FieldPath.mk segments, (Option.some.inj located).symm⟩

/-! ### Errors of forms -/

theorem Snapshot.Reports.isKey {snapshot : Snapshot} {visit : Visit} {key message : String}
    (reports : snapshot.Reports visit key message)
    (addresses : Addresses fields .root visit.path.segments ⟨visit.node, visit.context⟩) :
    IsKey fields key := by
  cases reports with
  | leaf fails => exact addresses.isKey rfl
  | count violated => exact addresses.isKey rfl
  | rules declared fails => exact addresses.isKey rfl
  | step member unmet => exact addresses.isKey_step _

section Validation

variable {snapshot : Snapshot} {path : FieldPath} {located : Located} (named : WellNamed fields)
  (addresses : Addresses fields .root path.segments located)
  (single : located.node.isGroup = false)

include named addresses single

private theorem eq_of_reports {other : Visit} {key message : String}
    (isOther : other ∈ walk .visible snapshot.values .root fields)
    (reports : snapshot.Reports other key message)
    (owned : key ∈ Engine.keysOf path.text located.node) :
    other = ⟨located.node, path, located.context⟩ := by
  have everywhere := (walk_sublist snapshot.values .root fields).subset isOther
  have others := (addresses_of_mem_walk named everywhere reports.single).1
  obtain ⟨rfl, rfl⟩ :=
    addresses.eq_of_shared_key others named single reports.single owned reports.mem_keysOf
  rfl

/-- Validation puts under a key of a node that is visited what the node has there on its own. -/
theorem Snapshot.find?_validateAll_of_visited
    (visited : ⟨located.node, path, located.context⟩ ∈ walk .visible snapshot.values .root fields)
    {key : String} (owned : key ∈ Engine.keysOf path.text located.node) :
    (snapshot.validateAll fields).find? key = Keyed.find? key
      (Keyed.ofList (snapshot.errorsOf ⟨located.node, path, located.context⟩)) := by
  refine Keyed.find?_ofList_flatMap visited fun other isOther holds => ?_
  obtain ⟨entry, isEntry, rfl⟩ := List.mem_map.mp holds
  rw [eq_of_reports named addresses single isOther (mem_errorsOf_iff.mp isEntry) owned]

/-- Validation puts nothing under the keys of a node that is not visited. -/
theorem Snapshot.find?_validateAll_of_unvisited
    (unvisited : ⟨located.node, path, located.context⟩ ∉ walk .visible snapshot.values .root fields)
    {key : String} (owned : key ∈ Engine.keysOf path.text located.node) :
    (snapshot.validateAll fields).find? key = none := by
  cases found : (snapshot.validateAll fields).find? key with
  | none => rfl
  | some message =>
      obtain ⟨other, isOther, isError⟩ := List.mem_flatMap.mp (Keyed.mem_of_find?_ofList found)
      rw [eq_of_reports named addresses single isOther (mem_errorsOf_iff.mp isError) owned]
        at isOther
      exact absurd isOther unvisited

end Validation

end DeclarativeForm
