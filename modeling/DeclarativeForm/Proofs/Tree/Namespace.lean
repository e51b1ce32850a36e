import DeclarativeForm.Proofs.Path.Plain
import DeclarativeForm.Tree.Find

/-!
Forms with good names. A section spreads its nodes over the namespace it is in. Names are good when
those of leaves, repeatables and flows are plain and no node of a namespace shares them, sections
included; the names of sections do not matter among themselves. With good names every node that has
a path is found by its name.
-/

set_option autoImplicit false

namespace DeclarativeForm

mutual

/-- A node and, if it is a section, the nodes it spreads over its namespace. -/
def Node.spread : Node → List Node
  | .group head fields => .group head fields :: spread fields
  | .leaf field => [.leaf field]
  | .repeatable head template => [.repeatable head template]
  | .flow field => [.flow field]
termination_by structural node => node

def spread : List Node → List Node
  | [] => []
  | node :: rest => Node.spread node ++ spread rest
termination_by structural nodes => nodes

end

/-- Two nodes of a namespace that are not mistaken for each other. -/
def Node.isToldFrom (node other : Node) : Bool :=
  node.isGroup && other.isGroup || node.name != other.name

def areUnshared (fields : List Node) : Bool :=
  decide ((spread fields).Pairwise fun node other => node.isToldFrom other = true)

mutual

def Node.isWellNamed : Node → Bool
  | .group _ fields => areWellNamed fields
  | .leaf field => isPlainName field.name
  | .repeatable head template =>
    isPlainName head.name && (areUnshared template && areWellNamed template)
  | .flow field => isPlainName field.name
termination_by structural node => node

def areWellNamed : List Node → Bool
  | [] => true
  | node :: rest => Node.isWellNamed node && areWellNamed rest
termination_by structural nodes => nodes

end

/-- The leaves, repeatables and flows of a form have plain names that no other node of their
namespaces shares. -/
structure WellNamed (fields : List Node) : Prop where
  unshared : areUnshared fields = true
  nodes : areWellNamed fields = true

instance (fields : List Node) : Decidable (WellNamed fields) :=
  decidable_of_iff (areUnshared fields = true ∧ areWellNamed fields = true)
    ⟨fun named => ⟨named.1, named.2⟩, fun named => ⟨named.unshared, named.nodes⟩⟩

/-! ### Finding by name -/

mutual

theorem Node.findNamed_eq (name : String) : ∀ node : Node,
    Node.findNamed name node = (Node.spread node).find? fun found => found.name = name
  | .group head fields => by
      rw [Node.findNamed, Node.spread, List.find?_cons, findByName_eq name fields]
      by_cases same : head.name = name
      · rw [if_pos same]
        simp only [Node.name, same, decide_true]
      · rw [if_neg same]
        simp only [Node.name, same, decide_false]
  | .leaf field => by
      by_cases same : field.name = name <;>
        simp [Node.findNamed, Node.spread, Node.name, same]
  | .repeatable head template => by
      by_cases same : head.name = name <;>
        simp [Node.findNamed, Node.spread, Node.name, same]
  | .flow field => by
      by_cases same : field.name = name <;>
        simp [Node.findNamed, Node.spread, Node.name, same]

theorem findByName_eq (name : String) : ∀ fields : List Node,
    findByName name fields = (spread fields).find? fun found => found.name = name
  | [] => rfl
  | node :: rest => by
      rw [findByName, spread, List.find?_append, ← Node.findNamed_eq name node,
        ← findByName_eq name rest]
      cases Node.findNamed name node <;> rfl

end

theorem mem_spread_of_findByName {name : String} {fields : List Node} {node : Node}
    (found : findByName name fields = some node) : node ∈ spread fields ∧ node.name = name := by
  rw [findByName_eq] at found
  have named := List.find?_some found
  exact ⟨List.mem_of_find?_eq_some found, of_decide_eq_true named⟩

private theorem find?_of_pairwise {nodes : List Node} {node : Node}
    (told : nodes.Pairwise fun node other => node.isToldFrom other = true) (member : node ∈ nodes)
    (single : node.isGroup = false) :
    nodes.find? (fun found => found.name = node.name) = some node := by
  induction nodes with
  | nil => cases member
  | cons first rest ih =>
      obtain ⟨here, later⟩ := List.pairwise_cons.mp told
      rw [List.find?_cons]
      rcases List.mem_cons.mp member with same | inRest
      · subst same
        simp only [decide_true]
      · have different := here node inRest
        simp only [Node.isToldFrom, single, Bool.and_false, Bool.false_or, bne_iff_ne] at different
        simp only [different, decide_false]
        exact ih later inRest

mutual

private theorem Node.isWellNamed_spread {found : Node} : ∀ node : Node,
    Node.isWellNamed node = true → found ∈ Node.spread node → Node.isWellNamed found = true
  | .group head fields, named, member => by
      rcases List.mem_cons.mp member with same | inside
      · exact same ▸ named
      · exact isWellNamed_of_mem_spread fields named inside
  | .leaf field, named, member => List.mem_singleton.mp member ▸ named
  | .repeatable head template, named, member => List.mem_singleton.mp member ▸ named
  | .flow field, named, member => List.mem_singleton.mp member ▸ named

private theorem isWellNamed_of_mem_spread {found : Node} : ∀ fields : List Node,
    areWellNamed fields = true → found ∈ spread fields → Node.isWellNamed found = true
  | [], _, member => nomatch member
  | node :: rest, named, member => by
      rw [areWellNamed, Bool.and_eq_true] at named
      rcases List.mem_append.mp member with here | later
      · exact Node.isWellNamed_spread node named.1 here
      · exact isWellNamed_of_mem_spread rest named.2 later

end

namespace WellNamed

variable {fields : List Node}

theorem findByName {node : Node} (named : WellNamed fields) (member : node ∈ spread fields)
    (single : node.isGroup = false) : DeclarativeForm.findByName node.name fields = some node := by
  rw [findByName_eq]
  exact find?_of_pairwise (of_decide_eq_true named.unshared) member single

theorem isPlainName {node : Node} (named : WellNamed fields) (member : node ∈ spread fields)
    (single : node.isGroup = false) : DeclarativeForm.isPlainName node.name = true := by
  have good := isWellNamed_of_mem_spread fields named.nodes member
  cases node with
  | group head fields => cases single
  | leaf field => exact good
  | repeatable head template =>
      rw [Node.isWellNamed, Bool.and_eq_true] at good
      exact good.1
  | flow field => exact good

theorem template {head : Repeatable} {template : List Node} (named : WellNamed fields)
    (member : .repeatable head template ∈ spread fields) : WellNamed template := by
  have good := isWellNamed_of_mem_spread fields named.nodes member
  rw [Node.isWellNamed, Bool.and_eq_true, Bool.and_eq_true] at good
  exact ⟨good.2.1, good.2.2⟩

end WellNamed

end DeclarativeForm
