import DeclarativeForm.Proofs.Fetch.Session
import DeclarativeForm.Proofs.Tree.Address

/-!
Walks and addresses agree. A walk over everything comes to each leaf, repeatable and flow once, at
a path that addresses it; and whatever a path addresses is visited there, if no item is missing on
the way. So with good names the texts of the visited paths tell the visits apart.
-/

set_option autoImplicit false

namespace DeclarativeForm

open FieldPath

/-! ### What is addressed is visited -/

mutual

private theorem Node.walk_subset_of_spread {values : Json} {context : Context} {peer : Node} :
    ∀ node : Node, peer ∈ Node.spread node →
      Node.walk .everything values context peer ⊆ Node.walk .everything values context node
  | .group head fields, member => by
      rcases List.mem_cons.mp member with same | inside
      · rw [same]
        exact List.Subset.refl _
      · exact List.Subset.trans (walk_subset_of_spread fields inside) (List.subset_cons_self _ _)
  | .leaf field, member => List.mem_singleton.mp member ▸ List.Subset.refl _
  | .repeatable head template, member => List.mem_singleton.mp member ▸ List.Subset.refl _
  | .flow field, member => List.mem_singleton.mp member ▸ List.Subset.refl _

theorem walk_subset_of_spread {values : Json} {context : Context} {peer : Node} :
    ∀ nodes : List Node, peer ∈ spread nodes →
      Node.walk .everything values context peer ⊆ walk .everything values context nodes
  | [], member => nomatch member
  | node :: rest, member => by
      rcases List.mem_append.mp member with here | later
      · exact List.Subset.trans (Node.walk_subset_of_spread node here)
          (List.subset_append_left _ _)
      · exact List.Subset.trans (walk_subset_of_spread rest later) (List.subset_append_right _ _)

end

theorem Node.mem_walk_self {values : Json} {context : Context} {node : Node}
    (single : node.isGroup = false) :
    ⟨node, context.pathFor node.name, context⟩ ∈ Node.walk .everything values context node := by
  cases node with
  | group head fields => cases single
  | leaf field => exact List.mem_cons_self
  | repeatable head template => exact List.mem_cons_self
  | flow field => exact List.mem_cons_self

theorem mem_walk_of_item {nodes template : List Node} {values : Json} {context : Context}
    {head : Repeatable} {position : Nat} {visit : Visit}
    (member : .repeatable head template ∈ spread nodes)
    (inRange : position < itemCount (context.pathFor head.name) values)
    (inItem : visit ∈
      walk .everything values (context.enterItem (context.pathFor head.name) position) template) :
    visit ∈ walk .everything values context nodes := by
  refine walk_subset_of_spread _ member (List.mem_cons_of_mem _ ?_)
  exact List.mem_flatMap.mpr ⟨position, List.mem_range.mpr inRange, inItem⟩

/-- What segments address is visited, if no item is missing on the way. -/
theorem Addresses.mem_walk {fields : List Node} {values : Json} {context : Context}
    {segments : List Segment} {located : Located}
    (addresses : Addresses fields context segments located)
    (single : located.node.isGroup = false)
    (complete : missingItemFrom values context.parent segments = none) :
    ⟨located.node, ⟨context.parent.segments ++ segments⟩, located.context⟩ ∈
      walk .everything values context fields := by
  induction addresses with
  | here found =>
      obtain ⟨member, rfl⟩ := mem_spread_of_findByName found
      exact walk_subset_of_spread _ member (Node.mem_walk_self single)
  | @inside fields template context name head position rest located found later ih =>
      obtain ⟨member, rfl⟩ := mem_spread_of_findByName found
      rw [missingItemFrom, missingItemFrom] at complete
      by_cases missing : itemCount (context.parent.child head.name) values ≤ position
      · rw [Node.name, if_pos missing] at complete
        cases complete
      · rw [Node.name, if_neg missing] at complete
        have inItem := ih single complete
        have path : (context.enterItem (context.pathFor head.name) position).parent.segments ++
            rest = context.parent.segments ++ .key head.name :: .index position :: rest := by
          simp [Context.enterItem, Context.pathFor, child, item]
        rw [path] at inItem
        exact mem_walk_of_item member (Nat.not_le.mp missing) inItem

/-! ### Visits are told apart by their paths -/

def Visit.StartsWith (context : Context) (visit : Visit) (node : Node) : Prop :=
  ∃ later, visit.path.segments = context.parent.segments ++ .key node.name :: later

mutual

private theorem Node.exists_startsWith {values : Json} {context : Context} {visit : Visit}
    (single : visit.node.isGroup = false) : ∀ node : Node,
    visit ∈ Node.walk .everything values context node →
      ∃ peer ∈ Node.spread node, peer.isGroup = false ∧ visit.StartsWith context peer
  | .leaf field, member => by
      rw [List.mem_singleton.mp member]
      exact ⟨_, List.mem_cons_self, rfl, [], rfl⟩
  | .group head fields, member => by
      rcases List.mem_cons.mp member with same | inside
      · rw [same] at single
        cases single
      · obtain ⟨peer, isPeer, rest⟩ := exists_startsWith single fields inside
        exact ⟨peer, List.mem_cons_of_mem _ isPeer, rest⟩
  | .repeatable head template, member => by
      refine ⟨_, List.mem_cons_self, rfl, ?_⟩
      rcases List.mem_cons.mp member with same | inside
      · rw [same]
        exact ⟨[], rfl⟩
      · obtain ⟨index, _, inItem⟩ := List.mem_flatMap.mp inside
        obtain ⟨peer, _, _, later, path⟩ := exists_startsWith single template inItem
        rw [Visit.StartsWith, path]
        simp [Context.enterItem, Context.pathFor, child, item, Node.name]
  | .flow field, member => by
      rw [List.mem_singleton.mp member]
      exact ⟨_, List.mem_cons_self, rfl, [], rfl⟩

/-- Below the place of a walk the path of a visit starts with the name of a node of the namespace. -/
theorem exists_startsWith {values : Json} {context : Context} {visit : Visit}
    (single : visit.node.isGroup = false) : ∀ nodes : List Node,
    visit ∈ walk .everything values context nodes →
      ∃ peer ∈ spread nodes, peer.isGroup = false ∧ visit.StartsWith context peer
  | [], member => nomatch member
  | node :: rest, member => by
      rcases List.mem_append.mp member with here | later
      · obtain ⟨peer, isPeer, starts⟩ := Node.exists_startsWith single node here
        exact ⟨peer, List.mem_append_left _ isPeer, starts⟩
      · obtain ⟨peer, isPeer, starts⟩ := exists_startsWith single rest later
        exact ⟨peer, List.mem_append_right _ isPeer, starts⟩

end

def Visit.IsApart (visit other : Visit) : Prop :=
  visit.node.isGroup = false → other.node.isGroup = false → visit.path ≠ other.path

private theorem isApart_of_startsWith {context : Context} {visit other : Visit}
    {node peer : Node} (starts : visit.StartsWith context node)
    (otherStarts : other.StartsWith context peer) (single : node.isGroup = false)
    (told : node.isToldFrom peer = true) : visit.path ≠ other.path := by
  intro same
  obtain ⟨later, path⟩ := starts
  obtain ⟨otherLater, otherPath⟩ := otherStarts
  rw [same, otherPath] at path
  have names := Segment.key.inj (List.head_eq_of_cons_eq (List.append_cancel_left path))
  simp [Node.isToldFrom, single, names] at told

private theorem isApart_of_items {values : Json} {context : Context} {path : FieldPath}
    {template : List Node} {first second : Nat} (different : first ≠ second) {visit other : Visit}
    (member : visit ∈ walk .everything values (context.enterItem path first) template)
    (otherMember : other ∈ walk .everything values (context.enterItem path second) template) :
    visit.IsApart other := by
  intro single otherSingle same
  obtain ⟨_, _, _, later, here⟩ := exists_startsWith single template member
  obtain ⟨_, _, _, otherLater, there⟩ := exists_startsWith otherSingle template otherMember
  rw [same, there] at here
  simp only [Context.enterItem, item, List.append_assoc, List.singleton_append] at here
  have positions := List.head_eq_of_cons_eq (List.append_cancel_left here)
  exact different (Segment.index.inj positions).symm

mutual

private theorem Node.walk_pairwise {values : Json} {context : Context} : ∀ node : Node,
    (Node.spread node).Pairwise (fun node other => node.isToldFrom other = true) →
      Node.isWellNamed node = true →
      (Node.walk .everything values context node).Pairwise Visit.IsApart
  | .leaf field, _, _ => List.pairwise_singleton _ _
  | .group head fields, told, named => by
      have inner : (walk .everything values context fields).Pairwise Visit.IsApart :=
        walk_pairwise fields (List.pairwise_cons.mp told).2 named
      exact List.pairwise_cons.mpr ⟨fun _ _ impossible => Bool.noConfusion impossible, inner⟩
  | .repeatable head template, _, named => by
      rw [Node.isWellNamed, Bool.and_eq_true, Bool.and_eq_true] at named
      obtain ⟨_, unshared, inside⟩ := named
      refine List.pairwise_cons.mpr ⟨fun other member _ single same => ?_, ?_⟩
      · obtain ⟨index, _, inItem⟩ := List.mem_flatMap.mp member
        obtain ⟨_, _, _, later, path⟩ := exists_startsWith single template inItem
        have lengths := congrArg (·.segments.length) same
        simp only [path, Context.enterItem, item, List.length_append, List.length_cons] at lengths
        omega
      · refine List.pairwise_flatMap.mpr ⟨fun index _ => ?_, ?_⟩
        · exact walk_pairwise template (of_decide_eq_true unshared) inside
        · refine List.nodup_range.imp fun different visit member other otherMember => ?_
          exact isApart_of_items different member otherMember
  | .flow field, _, _ => List.pairwise_singleton _ _

private theorem walk_pairwise {values : Json} {context : Context} : ∀ nodes : List Node,
    (spread nodes).Pairwise (fun node other => node.isToldFrom other = true) →
      areWellNamed nodes = true →
      (walk .everything values context nodes).Pairwise Visit.IsApart
  | [], _, _ => List.Pairwise.nil
  | node :: rest, told, named => by
      rw [areWellNamed, Bool.and_eq_true] at named
      obtain ⟨here, later, across⟩ := List.pairwise_append.mp told
      refine List.pairwise_append.mpr ⟨Node.walk_pairwise node here named.1,
        walk_pairwise rest later named.2, fun visit member other otherMember => ?_⟩
      intro single otherSingle
      obtain ⟨peer, isPeer, peerSingle, starts⟩ := Node.exists_startsWith single node member
      obtain ⟨otherPeer, isOther, _, otherStarts⟩ := exists_startsWith otherSingle rest otherMember
      exact isApart_of_startsWith starts otherStarts peerSingle (across peer isPeer _ isOther)

end

variable {fields : List Node}

theorem isPlain_of_mem_walk {values : Json} (named : WellNamed fields) {visit : Visit}
    (member : visit ∈ walk .everything values .root fields)
    (single : visit.node.isGroup = false) : IsPlain visit.path.segments :=
  (addresses_of_mem_walk named member single).1.isPlain named single

theorem nodup_texts (named : WellNamed fields) (values : Json) :
    (((walk .everything values .root fields).filter fun visit => !visit.node.isGroup).map
      (·.path.text)).Nodup := by
  have apart : (walk .everything values .root fields).Pairwise Visit.IsApart :=
    walk_pairwise fields (of_decide_eq_true named.unshared) named.nodes
  refine List.pairwise_map.mpr ((apart.filter _).imp_of_mem ?_)
  intro visit other member otherMember apart sameText
  simp only [List.mem_filter, Bool.not_eq_true'] at member otherMember
  apply apart member.2 otherMember.2
  exact text_injective (isPlain_of_mem_walk named member.1 member.2).isWritable
    (isPlain_of_mem_walk named otherMember.1 otherMember.2).isWritable sameText

/-- A walk over everything and the resolution of paths agree. Leaves, repeatables and flows are
visited under different texts; each text leads back to its visit, where its indices can be read;
and whatever a path leads to is visited, if no item is missing on the way. -/
theorem walk_agrees_with_locate (named : WellNamed fields) (values : Json) :
    (((walk .everything values .root fields).filter fun visit => !visit.node.isGroup).map
        (·.path.text)).Nodup ∧
      (∀ visit ∈ walk .everything values .root fields, visit.node.isGroup = false →
        (parse visit.path.text = .ok visit.path ↔ visit.path.InRange) ∧
          locate fields visit.path = some ⟨visit.node, visit.context⟩) ∧
      ∀ path located, locate fields path = some located → located.node.isGroup = false →
        missingItem? path values = none →
        ⟨located.node, path, located.context⟩ ∈ walk .everything values .root fields := by
  refine ⟨nodup_texts named values, fun visit member single => ⟨?_, ?_⟩, ?_⟩
  · exact parse_text_eq_ok_iff (isPlain_of_mem_walk named member single)
  · exact (addresses_of_mem_walk named member single).1.locateFrom
  · intro path located done single complete
    exact (addresses_of_locateFrom done).mem_walk single complete

def contactFields : List Node :=
  [.group ⟨"people", none, none, none, false, false, none, none⟩
    [.repeatable (.named "contacts") [.leaf (.fed "email" (.dependingOn []))]]]

/-- The email of the second contact is visited in its item, and its text leads back to it. -/
theorem secondContact_visited :
    let data : Json := .object [("contacts", .array [.object [], .object []])]
    let contacts := FieldPath.key "contacts"
    let visit : Visit := ⟨.leaf (.fed "email" (.dependingOn [])),
      (contacts.item 1).child "email", ⟨contacts.item 1, [contacts.item 1]⟩⟩
    visit ∈ walk .everything data .root contactFields ∧
      parse visit.path.text = .ok visit.path ∧
      locate contactFields visit.path = some ⟨visit.node, visit.context⟩ := by
  intro data contacts visit
  have named : WellNamed contactFields := by decide +kernel
  obtain ⟨_, back, found⟩ := walk_agrees_with_locate named data
  have visited := found visit.path ⟨visit.node, visit.context⟩ rfl rfl (by decide +kernel)
  obtain ⟨readable, located⟩ := back visit visited rfl
  refine ⟨visited, readable.mpr fun position member => ?_, located⟩
  simp [visit, contacts, child, item, key] at member
  subst member
  decide

end DeclarativeForm
