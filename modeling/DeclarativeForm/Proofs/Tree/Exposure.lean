import DeclarativeForm.Proofs.Tree.Address

/-!
What is visible. A node is exposed when everything around it is shown: its sections, and its
repeatables, each of them entered at an item that is there. A walk over what is visible comes to
the exposed nodes that are shown themselves, and to no others.
-/

set_option autoImplicit false

namespace DeclarativeForm

/-- The nodes, with their places, that are reached through sections and items that are shown. -/
inductive Exposed (values : Json) : List Node → Context → Node → Context → Prop
  | here {nodes : List Node} {context : Context} {node : Node} (member : node ∈ nodes) :
      Exposed values nodes context node context
  | inSection {nodes fields : List Node} {context place : Context} {head : Section} {node : Node}
      (member : .group head fields ∈ nodes)
      (shown : isShown head.showWhen (context.scope values) = true)
      (later : Exposed values fields context node place) : Exposed values nodes context node place
  | inItem {nodes template : List Node} {context place : Context} {head : Repeatable} {node : Node}
      {index : Nat} (member : .repeatable head template ∈ nodes)
      (shown : isShown head.showWhen (context.scope values) = true)
      (inRange : index < itemCount (context.pathFor head.name) values)
      (later : Exposed values template (context.enterItem (context.pathFor head.name) index) node
        place) :
      Exposed values nodes context node place

structure Visit.IsVisible (values : Json) (nodes : List Node) (context : Context)
    (visit : Visit) : Prop where
  exposed : Exposed values nodes context visit.node visit.context
  shown : isShown visit.node.showWhen (visit.context.scope values) = true
  path : visit.path = visit.context.pathOf visit.node

variable {values : Json} {nodes others fields template : List Node} {context place : Context}
  {node : Node} {visit : Visit}

theorem Exposed.mono (exposed : Exposed values nodes context node place)
    (more : nodes ⊆ others) : Exposed values others context node place := by
  cases exposed with
  | here member => exact .here (more member)
  | inSection member shown later => exact .inSection (more member) shown later
  | inItem member shown inRange later => exact .inItem (more member) shown inRange later

namespace Visit.IsVisible

theorem mono (isVisible : visit.IsVisible values nodes context) (more : nodes ⊆ others) :
    visit.IsVisible values others context :=
  ⟨isVisible.exposed.mono more, isVisible.shown, isVisible.path⟩

theorem inSection {head : Section} (shown : isShown head.showWhen (context.scope values) = true)
    (isVisible : visit.IsVisible values fields context) :
    visit.IsVisible values [.group head fields] context :=
  ⟨.inSection (List.mem_singleton_self _) shown isVisible.exposed, isVisible.shown, isVisible.path⟩

theorem inItem {head : Repeatable} {index : Nat}
    (shown : isShown head.showWhen (context.scope values) = true)
    (inRange : index < itemCount (context.pathFor head.name) values)
    (isVisible : visit.IsVisible values template
      (context.enterItem (context.pathFor head.name) index)) :
    visit.IsVisible values [.repeatable head template] context :=
  ⟨.inItem (List.mem_singleton_self _) shown inRange isVisible.exposed, isVisible.shown,
    isVisible.path⟩

end Visit.IsVisible

mutual

private theorem Node.isVisible_of_mem_walk {visit : Visit} {context : Context} : ∀ node : Node,
    visit ∈ Node.walk .visible values context node → visit.IsVisible values [node] context
  | .leaf field, member => by
      rw [Node.walk] at member
      split at member
      case isTrue shown =>
        rw [List.mem_singleton.mp member]
        exact ⟨.here (List.mem_singleton_self _), shown, rfl⟩
      case isFalse => cases member
  | .group head fields, member => by
      rw [Node.walk] at member
      split at member
      case isTrue shown =>
        rcases List.mem_cons.mp member with rfl | inside
        · exact ⟨.here (List.mem_singleton_self _), shown, rfl⟩
        · exact (isVisible_of_mem_walk fields inside).inSection shown
      case isFalse => cases member
  | .repeatable head template, member => by
      rw [Node.walk] at member
      split at member
      case isTrue shown =>
        rcases List.mem_cons.mp member with rfl | inside
        · exact ⟨.here (List.mem_singleton_self _), shown, rfl⟩
        · obtain ⟨index, inRange, inItem⟩ := List.mem_flatMap.mp inside
          exact (isVisible_of_mem_walk template inItem).inItem shown (List.mem_range.mp inRange)
      case isFalse => cases member
  | .flow field, member => by
      rw [Node.walk] at member
      split at member
      case isTrue shown =>
        rw [List.mem_singleton.mp member]
        exact ⟨.here (List.mem_singleton_self _), shown, rfl⟩
      case isFalse => cases member

private theorem isVisible_of_mem_walk {visit : Visit} {context : Context} : ∀ nodes : List Node,
    visit ∈ walk .visible values context nodes → visit.IsVisible values nodes context
  | [], member => nomatch member
  | node :: rest, member => by
      rcases List.mem_append.mp member with here | later
      · refine (Node.isVisible_of_mem_walk node here).mono fun other isOther => ?_
        rw [List.mem_singleton.mp isOther]
        exact List.mem_cons_self
      · exact (isVisible_of_mem_walk rest later).mono (List.subset_cons_self _ _)

end

private theorem walk_subset_of_mem {reach : Reach} (member : node ∈ nodes) :
    Node.walk reach values context node ⊆ walk reach values context nodes := by
  induction nodes with
  | nil => cases member
  | cons first rest ih =>
      rw [walk]
      rcases List.mem_cons.mp member with rfl | later
      · exact List.subset_append_left _ _
      · exact List.Subset.trans (ih later) (List.subset_append_right _ _)

private theorem Node.head?_walk {reach : Reach} : (Node.walk reach values context node).head? =
    if reach.admits values context node.showWhen then some ⟨node, context.pathOf node, context⟩
    else none := by
  cases node <;> exact apply_ite List.head? _ _ _

private theorem mem_walk_of_shown (shown : isShown node.showWhen (context.scope values) = true) :
    ⟨node, context.pathOf node, context⟩ ∈ Node.walk .visible values context node := by
  apply List.mem_of_mem_head?
  rw [Node.head?_walk]
  exact if_pos shown

private theorem mem_walk_of_exposed (exposed : Exposed values nodes context node place)
    (shown : isShown node.showWhen (place.scope values) = true) :
    ⟨node, place.pathOf node, place⟩ ∈ walk .visible values context nodes := by
  induction exposed with
  | here member => exact walk_subset_of_mem member (mem_walk_of_shown shown)
  | @inSection nodes fields context place head node member around _ ih =>
      have admitted : Reach.visible.admits values context head.showWhen = true := around
      apply walk_subset_of_mem member
      rw [Node.walk, if_pos admitted]
      exact List.mem_cons_of_mem _ (ih shown)
  | @inItem nodes template context place head node index member around inRange _ ih =>
      have admitted : Reach.visible.admits values context head.showWhen = true := around
      apply walk_subset_of_mem member
      rw [Node.walk, if_pos admitted]
      refine List.mem_cons_of_mem _ (List.mem_flatMap.mpr ⟨index, ?_, ih shown⟩)
      exact List.mem_range.mpr inRange

/-- A walk over what is visible comes to the nodes that are exposed and shown. -/
theorem mem_walk_visible_iff :
    visit ∈ walk .visible values context nodes ↔ visit.IsVisible values nodes context := by
  constructor
  · exact isVisible_of_mem_walk nodes
  · intro isVisible
    obtain ⟨node, path, place⟩ := visit
    have path : path = place.pathOf node := isVisible.path
    subst path
    exact mem_walk_of_exposed isVisible.exposed isVisible.shown

end DeclarativeForm
