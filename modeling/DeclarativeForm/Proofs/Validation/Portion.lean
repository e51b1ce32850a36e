import DeclarativeForm.Engine.Wizard
import DeclarativeForm.Proofs.Tree.Agreement
import DeclarativeForm.Proofs.Validation.Owner
import Mathlib.Data.List.Pairwise

/-!
Portions of a form. The nodes that a step of a wizard lists may come from inside sections, and may
be listed twice; what they spread is spread by the form. With good names a portion finds by a name
what the form finds by it. So the keys of a portion are those of the form that start with the name
of one of its leaves, repeatables and flows, and validation of the portion finds errors under its
keys only.
-/

set_option autoImplicit false

namespace DeclarativeForm

open FieldPath

/-! ### Names at the start of texts -/

theorem isUnder_text_iff {first name : String} {later : List Segment}
    (plain : isPlainName first = true) (other : isPlainName name = true) :
    isUnder (text ⟨.key first :: later⟩) name = true ↔ first = name := by
  have whole : (text ⟨.key first :: later⟩).toList = first.toList ++ later.flatMap laterSegment :=
    toList_text _
  rw [isUnder, whole]
  constructor
  · intro under
    cases stripped : stripStart name.toList (first.toList ++ later.flatMap laterSegment) with
    | none =>
        rw [stripped] at under
        cases under
    | some rest =>
        rw [stripped] at under
        have ends : rest.takeWhile isOrdinary = [] := by
          cases rest with
          | nil => rfl
          | cons c rest =>
              have mark : c = '.' ∨ c = '[' := by simpa using under
              rcases mark with rfl | rfl <;> rfl
        exact (name_append_injective (isName_of_isPlainName plain) (isName_of_isPlainName other)
          (takeWhile_later later) ends (stripStart_eq_some stripped)).1
  · rintro rfl
    rw [stripStart_append]
    cases later with
    | nil => rfl
    | cons segment rest => cases segment <;> rfl

/-! ### Namespaces -/

mutual

private theorem Node.spread_subset {peer : Node} : ∀ node : Node, peer ∈ Node.spread node →
    Node.spread peer ⊆ Node.spread node
  | .group head fields, member => by
      rcases List.mem_cons.mp member with same | inside
      · exact same ▸ List.Subset.refl _
      · exact List.Subset.trans (spread_subset fields inside) (List.subset_cons_self _ _)
  | .leaf field, member => List.mem_singleton.mp member ▸ List.Subset.refl _
  | .repeatable head template, member => List.mem_singleton.mp member ▸ List.Subset.refl _
  | .flow field, member => List.mem_singleton.mp member ▸ List.Subset.refl _

private theorem spread_subset {peer : Node} : ∀ fields : List Node, peer ∈ spread fields →
    Node.spread peer ⊆ spread fields
  | [], member => nomatch member
  | node :: rest, member => by
      rcases List.mem_append.mp member with here | later
      · exact List.Subset.trans (Node.spread_subset node here) (List.subset_append_left _ _)
      · exact List.Subset.trans (spread_subset rest later) (List.subset_append_right _ _)

end

theorem Node.mem_spread_self (node : Node) : node ∈ Node.spread node := by
  cases node <;> exact List.mem_cons_self

theorem Node.isToldFrom_symm {node other : Node} (told : node.isToldFrom other = true) :
    other.isToldFrom node = true := by
  simp only [Node.isToldFrom, Bool.or_eq_true, Bool.and_eq_true, bne_iff_ne] at told ⊢
  exact told.imp And.symm Ne.symm

instance : Std.Symm fun node other : Node => node.isToldFrom other = true :=
  ⟨fun _ _ => Node.isToldFrom_symm⟩

theorem WellNamed.eq_of_name {fields : List Node} {node peer : Node} (named : WellNamed fields)
    (member : node ∈ spread fields) (single : node.isGroup = false) (other : peer ∈ spread fields)
    (same : peer.name = node.name) : peer = node := by
  by_contra different
  have told := (of_decide_eq_true named.unshared).forall member other (Ne.symm different)
  simp [Node.isToldFrom, single, same] at told

/-! ### Portions -/

def IsPortion (nodes fields : List Node) : Prop := spread nodes ⊆ spread fields

theorem isPortion_resolveStep (fields : List Node) (names : List String) :
    IsPortion (resolveStep fields names) fields := by
  unfold IsPortion resolveStep
  induction names with
  | nil => exact List.nil_subset _
  | cons name rest ih =>
      rw [List.filterMap_cons]
      cases found : findByName name fields with
      | none => exact ih
      | some node =>
          rw [spread]
          exact List.append_subset.mpr
            ⟨spread_subset fields (mem_spread_of_findByName found).1, ih⟩

theorem Engine.isPortion_currentNodes (engine : Engine) :
    IsPortion engine.currentNodes engine.form.fields := by
  unfold currentNodes
  cases engine.currentStep? with
  | none => exact List.Subset.refl _
  | some step => exact isPortion_resolveStep _ _

mutual

private theorem Node.ownedKeys_eq : ∀ node : Node,
    Node.ownedKeys node = ((Node.spread node).filter fun peer => !peer.isGroup).map Node.name
  | .group _ fields => ownedKeys_eq fields
  | .leaf _ => rfl
  | .repeatable _ _ => rfl
  | .flow _ => rfl

private theorem ownedKeys_eq : ∀ nodes : List Node,
    ownedKeys nodes = ((spread nodes).filter fun peer => !peer.isGroup).map Node.name
  | [] => rfl
  | node :: rest => by
      rw [ownedKeys, spread, List.filter_append, List.map_append, Node.ownedKeys_eq node,
        ownedKeys_eq rest]

end

/-- The names that errors are replaced under are those of leaves, repeatables and flows. -/
theorem mem_ownedKeys_iff {nodes : List Node} {name : String} :
    name ∈ ownedKeys nodes ↔ ∃ peer ∈ spread nodes, peer.isGroup = false ∧ peer.name = name := by
  rw [ownedKeys_eq]
  simp only [List.mem_map, List.mem_filter, Bool.not_eq_true', and_assoc]

namespace IsPortion

variable {nodes fields : List Node} {context : Context} {segments : List Segment}
  {located : Located}

theorem findByName (portion : IsPortion nodes fields) (named : WellNamed fields) {node : Node}
    (member : node ∈ spread nodes) (single : node.isGroup = false) :
    DeclarativeForm.findByName node.name nodes = some node := by
  cases found : DeclarativeForm.findByName node.name nodes with
  | none =>
      rw [findByName_eq, List.find?_eq_none] at found
      exact absurd (decide_eq_true rfl) (found node member)
  | some peer =>
      obtain ⟨isPeer, same⟩ := mem_spread_of_findByName found
      rw [named.eq_of_name (portion member) single (portion isPeer) same]

theorem addresses (portion : IsPortion nodes fields) (named : WellNamed fields)
    (addresses : Addresses nodes context segments located)
    (single : located.node.isGroup = false) : Addresses fields context segments located := by
  cases addresses with
  | here found =>
      obtain ⟨member, rfl⟩ := mem_spread_of_findByName found
      exact .here (named.findByName (portion member) single)
  | inside found later =>
      obtain ⟨member, rfl⟩ := mem_spread_of_findByName found
      exact .inside (named.findByName (portion member) rfl) later

/-- What the form addresses below the name of a node of a portion is addressed by the portion. -/
theorem addresses_of_owned (portion : IsPortion nodes fields) (named : WellNamed fields)
    {name : String} {later : List Segment}
    (addresses : Addresses fields context (.key name :: later) located)
    (owned : name ∈ ownedKeys nodes) : Addresses nodes context (.key name :: later) located := by
  obtain ⟨peer, isPeer, single, rfl⟩ := mem_ownedKeys_iff.mp owned
  have inForm := named.findByName (portion isPeer) single
  have inNodes := portion.findByName named isPeer single
  cases addresses with
  | here found =>
      rw [inForm] at found
      cases found
      exact .here inNodes
  | inside found later =>
      rw [inForm] at found
      cases found
      exact .inside inNodes later

/-! ### Keys of portions -/

private theorem addresses_of_isUnder (portion : IsPortion nodes fields) (named : WellNamed fields)
    (addresses : Addresses fields context segments located)
    (single : located.node.isGroup = false) {tail : List Segment} {name : String}
    (owned : name ∈ ownedKeys nodes) (under : isUnder (text ⟨segments ++ tail⟩) name = true) :
    Addresses nodes context segments located := by
  obtain ⟨peer, isPeer, peerSingle, isNamed⟩ := mem_ownedKeys_iff.mp owned
  have other : isPlainName name = true := isNamed ▸ named.isPlainName (portion isPeer) peerSingle
  obtain ⟨first, later, rfl, plain⟩ := (addresses.alternating named single).exists_cons
  obtain rfl := (isUnder_text_iff plain other).mp under
  exact portion.addresses_of_owned named addresses owned

private theorem isUnder_of_addresses (portion : IsPortion nodes fields) (named : WellNamed fields)
    (addresses : Addresses nodes context segments located)
    (single : located.node.isGroup = false) (tail : List Segment) :
    ∃ name ∈ ownedKeys nodes, isUnder (text ⟨segments ++ tail⟩) name = true := by
  have start : ∃ peer ∈ spread nodes, peer.isGroup = false ∧
      ∃ later, segments = .key peer.name :: later := by
    cases addresses with
    | here found =>
        obtain ⟨member, rfl⟩ := mem_spread_of_findByName found
        exact ⟨_, member, single, _, rfl⟩
    | inside found later =>
        obtain ⟨member, rfl⟩ := mem_spread_of_findByName found
        exact ⟨_, member, rfl, _, rfl⟩
  obtain ⟨peer, isPeer, peerSingle, later, rfl⟩ := start
  have plain := named.isPlainName (portion isPeer) peerSingle
  exact ⟨peer.name, mem_ownedKeys_iff.mpr ⟨peer, isPeer, peerSingle, rfl⟩,
    (isUnder_text_iff plain plain).mpr rfl⟩

/-- The keys of a portion are those of the form under the names of its nodes. -/
theorem isKey_iff (portion : IsPortion nodes fields) (named : WellNamed fields) {key : String} :
    IsKey nodes key ↔
      IsKey fields key ∧ (ownedKeys nodes).any (fun name => isUnder key name) = true := by
  rw [List.any_eq_true]
  constructor
  · rintro ⟨_, isPath, rfl⟩
    cases isPath with
    | node addresses single =>
        have under := portion.isUnder_of_addresses named addresses single []
        rw [List.append_nil] at under
        exact ⟨(portion.addresses named addresses single).isKey single, under⟩
    | @step path flow context addresses id =>
        have inForm := portion.addresses named addresses rfl
        exact ⟨⟨path.child id, .step inForm id, rfl⟩,
          portion.isUnder_of_addresses named addresses rfl [.key id]⟩
  · rintro ⟨⟨path, isPath, rfl⟩, name, owned, under⟩
    cases isPath with
    | node addresses single =>
        have whole : text ⟨path.segments ++ []⟩ = path.text := by rw [List.append_nil]
        rw [← whole] at under
        exact (portion.addresses_of_isUnder named addresses single owned under).isKey single
    | @step path flow context addresses id =>
        have inNodes := portion.addresses_of_isUnder named addresses rfl owned under
        exact ⟨path.child id, .step inNodes id, rfl⟩

theorem walk_subset (portion : IsPortion nodes fields) (values : Json) (context : Context) :
    walk .everything values context nodes ⊆ walk .everything values context fields := by
  induction nodes with
  | nil => exact List.nil_subset _
  | cons node rest ih =>
      obtain ⟨here, later⟩ := List.append_subset.mp portion
      rw [walk]
      exact List.append_subset.mpr
        ⟨walk_subset_of_spread fields (here node.mem_spread_self), ih later⟩

theorem isKey_of_mem_validateNodes (portion : IsPortion nodes fields) (named : WellNamed fields)
    {snapshot : Snapshot} {key : String}
    (member : key ∈ Keyed.keys (snapshot.validateNodes nodes)) : IsKey nodes key := by
  obtain ⟨entry, isEntry, rfl⟩ := List.mem_map.mp member
  have found := Keyed.find?_of_mem (Keyed.distinct_ofList _) isEntry
  obtain ⟨visit, visited, isError⟩ := List.mem_flatMap.mp (Keyed.mem_of_find?_ofList found)
  have reports := Snapshot.mem_errorsOf_iff.mp isError
  have inNodes := (walk_sublist snapshot.values .root nodes).subset visited
  obtain ⟨peer, isPeer, single, later, starts⟩ := exists_startsWith reports.single nodes inNodes
  have owned := mem_ownedKeys_iff.mpr ⟨peer, isPeer, single, rfl⟩
  have inForm := (addresses_of_mem_walk named (portion.walk_subset _ _ inNodes) reports.single).1
  refine reports.isKey ?_
  rw [starts] at inForm ⊢
  exact portion.addresses_of_owned named inForm owned

end IsPortion

end DeclarativeForm
