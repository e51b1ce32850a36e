import DeclarativeForm.Proofs.Fetch.Session
import DeclarativeForm.Proofs.Tree.Namespace
import DeclarativeForm.Schema.Document
import Mathlib.Data.List.Nodup

/-!
What it means that no duplicate name was noticed. Then the leaves, repeatables and flows of every
namespace have different names; but the names of sections are not looked at. So each of them is
found by its name unless a section that comes before it, or that it is in, has the same name: then
the section is found instead.
-/

set_option autoImplicit false

namespace DeclarativeForm

def DuplicateFree (notices : List Notice) : Prop :=
  ∀ name parent, .duplicateName name parent ∉ notices

theorem duplicateFree_append {first second : List Notice} :
    DuplicateFree (first ++ second) ↔ DuplicateFree first ∧ DuplicateFree second := by
  simp only [DuplicateFree, List.mem_append, not_or, forall_and]

/-- The names of the nodes that have paths of their own. -/
def ownNames (nodes : List Node) : List String :=
  (nodes.filter fun node => !node.isGroup).map Node.name

theorem mem_ownNames {name : String} {nodes : List Node} :
    name ∈ ownNames nodes ↔ ∃ node ∈ nodes, node.isGroup = false ∧ node.name = name := by
  simp [ownNames, and_assoc]

theorem ownNames_cons {first : Node} (single : first.isGroup = false) (rest : List Node) :
    ownNames (first :: rest) = first.name :: ownNames rest := by
  simp [ownNames, single]

theorem ownNames_append (first second : List Node) :
    ownNames (first ++ second) = ownNames first ++ ownNames second := by
  rw [ownNames, List.filter_append, List.map_append, ownNames, ownNames]

theorem ownNames_sublist {first second : List Node} (part : first.Sublist second) :
    (ownNames first).Sublist (ownNames second) :=
  (part.filter _).map _

theorem nodup_ownNames_rest {first : Node} {rest : List Node}
    (distinct : (ownNames (first :: rest)).Nodup) : (ownNames rest).Nodup :=
  distinct.sublist (ownNames_sublist (List.sublist_cons_self first rest))

/-- The namespaces of a form: its own and that of every template in it. -/
inductive IsNamespace (fields : List Node) : List Node → Prop
  | root : IsNamespace fields fields
  | template {nodes template : List Node} {head : Repeatable} (outer : IsNamespace fields nodes)
      (member : .repeatable head template ∈ spread nodes) : IsNamespace fields template

/-! ### Noticing duplicates -/

namespace Lint

/-- Some nodes of a namespace were gone through and no duplicate was noticed: their names are used
afterwards, and the templates among them are free of duplicates. -/
structure Clean (seen : List String) (nodes : List Node) (after : List String) : Prop where
  used : after = (ownNames nodes).reverse ++ seen
  distinct : seen.Nodup → after.Nodup
  templates : ∀ head template, .repeatable head template ∈ nodes →
    DuplicateFree (siblings head.name [] template).1

variable {seen middle after : List String} {first second : List Node}

theorem Clean.append (one : Clean seen first middle) (two : Clean middle second after) :
    Clean seen (first ++ second) after where
  used := by
    rw [two.used, one.used, ownNames_append, List.reverse_append, List.append_assoc]
  distinct start := two.distinct (one.distinct start)
  templates head template member :=
    (List.mem_append.mp member).elim (one.templates head template) (two.templates head template)

theorem named_eq {parent name : String} {own : List Notice}
    (free : DuplicateFree (named parent seen name own).1) :
    name ∉ seen ∧ (named parent seen name own).2 = name :: seen ∧ DuplicateFree own := by
  unfold named at free ⊢
  split at free
  · exact absurd List.mem_cons_self (free name parent)
  · rename_i isNew
    rw [if_neg isNew]
    exact ⟨fun member => isNew (List.contains_iff_mem.mpr member), rfl, free⟩

theorem clean_of_named {node : Node} (single : node.isGroup = false) {parent : String}
    {own : List Notice} (free : DuplicateFree (named parent seen node.name own).1)
    (templates : DuplicateFree own → ∀ head template, .repeatable head template ∈ [node] →
      DuplicateFree (siblings head.name [] template).1) :
    Clean seen [node] (named parent seen node.name own).2 := by
  obtain ⟨isNew, used, ownFree⟩ := named_eq free
  rw [used]
  refine ⟨?_, fun start => List.nodup_cons.mpr ⟨isNew, start⟩, templates ownFree⟩
  simp [ownNames, single]

mutual

private theorem node_clean {parent : String} {seen : List String} : ∀ node : Node,
    DuplicateFree (Lint.node parent seen node).1 →
      Clean seen (Node.spread node) (Lint.node parent seen node).2
  | .group head fields, free =>
      let inside := siblings_clean fields free
      ⟨inside.used, inside.distinct, fun head template member =>
        inside.templates head template ((List.mem_cons.mp member).resolve_left nofun)⟩
  | .leaf field, free =>
      @clean_of_named _ (.leaf field) rfl _ _ free fun _ _ _ member =>
        nomatch List.mem_singleton.mp member
  | .repeatable head template, free =>
      @clean_of_named _ (.repeatable head template) rfl _ _ free fun own _ _ member => by
        cases List.mem_singleton.mp member
        exact own
  | .flow field, free =>
      @clean_of_named _ (.flow field) rfl _ _ free fun _ _ _ member =>
        nomatch List.mem_singleton.mp member

/-- When no duplicate was noticed, the names that are used were different. -/
theorem siblings_clean {parent : String} {seen : List String} : ∀ nodes : List Node,
    DuplicateFree (siblings parent seen nodes).1 →
      Clean seen (spread nodes) (siblings parent seen nodes).2
  | [], _ => ⟨rfl, id, fun _ _ member => nomatch member⟩
  | node :: rest, free => by
      obtain ⟨here, later⟩ := duplicateFree_append.mp free
      exact (node_clean node here).append (siblings_clean rest later)

end

end Lint

/-- When no duplicate was noticed, the names in every namespace are different, apart from those of
sections. -/
theorem IsNamespace.nodup_ownNames {form : Form} (free : DuplicateFree form.notices)
    {nodes : List Node} (isNamespace : IsNamespace form.fields nodes) :
    (ownNames (spread nodes)).Nodup := by
  have isFree : ∃ parent, DuplicateFree (Lint.siblings parent [] nodes).1 := by
    induction isNamespace with
    | root => exact ⟨_, (duplicateFree_append.mp free).1⟩
    | template _ member ih =>
        obtain ⟨parent, outer⟩ := ih
        exact ⟨_, (Lint.siblings_clean _ outer).templates _ _ member⟩
  obtain ⟨parent, own⟩ := isFree
  have clean := Lint.siblings_clean nodes own
  have distinct := clean.distinct List.nodup_nil
  rw [clean.used, List.append_nil, List.nodup_reverse] at distinct
  exact distinct

/-! ### Finding -/

/-- A section with the name of a node comes before it, or has it inside. -/
def SectionBefore (nodes : List Node) (node : Node) : Prop :=
  ∃ head fields, [.group head fields, node].Sublist nodes ∧ head.name = node.name

section Finding

variable {nodes : List Node} {node : Node} (distinct : (ownNames nodes).Nodup)
  (single : node.isGroup = false)

include distinct single

/-- Of two nodes with one name the first is a section. -/
private theorem exists_group_of_sublist {found : Node} (order : [found, node].Sublist nodes)
    (same : found.name = node.name) : ∃ head fields, found = .group head fields := by
  cases isGroup : found.isGroup with
  | true =>
      cases found with
      | group head fields => exact ⟨head, fields, rfl⟩
      | leaf field => cases isGroup
      | repeatable head template => cases isGroup
      | flow field => cases isGroup
  | false =>
      have names : (ownNames [found, node]).Sublist (ownNames nodes) :=
        ownNames_sublist order
      rw [ownNames_cons isGroup, ownNames_cons single, same] at names
      exact absurd List.mem_cons_self (List.nodup_cons.mp (distinct.sublist names)).1

/-- A node is found by its name, or a section before it is. -/
private theorem find?_or_section (member : node ∈ nodes) :
    nodes.find? (fun peer => peer.name = node.name) = some node ∨
      ∃ head fields, nodes.find? (fun peer => peer.name = node.name) = some (.group head fields) ∧
        [.group head fields, node].Sublist nodes ∧ head.name = node.name := by
  induction nodes with
  | nil => cases member
  | cons first rest ih =>
      by_cases same : first.name = node.name
      · rw [List.find?_cons, decide_eq_true same]
        rcases List.mem_cons.mp member with isFirst | later
        · exact Or.inl (congrArg some isFirst.symm)
        · have order : [first, node].Sublist (first :: rest) :=
            .cons_cons first (List.singleton_sublist.mpr later)
          obtain ⟨head, fields, rfl⟩ := exists_group_of_sublist distinct single order same
          exact Or.inr ⟨head, fields, rfl, order, same⟩
      · have inRest : node ∈ rest :=
          (List.mem_cons.mp member).resolve_left fun isFirst => same (isFirst ▸ rfl)
        rw [List.find?_cons, decide_eq_false same]
        obtain found | ⟨head, fields, found, order, name⟩ :=
          ih (nodup_ownNames_rest distinct) inRest
        · exact Or.inl found
        · exact Or.inr ⟨head, fields, found, order.cons first, name⟩

private theorem not_sectionBefore_of_find?
    (found : nodes.find? (fun peer => peer.name = node.name) = some node) :
    ¬SectionBefore nodes node := by
  rintro ⟨head, fields, order, name⟩
  induction nodes with
  | nil => cases found
  | cons first rest ih =>
      by_cases same : first.name = node.name
      · rw [List.find?_cons, decide_eq_true same] at found
        cases found
        have again : [node, node].Sublist (node :: rest) := by
          cases order with
          | cons _ later => exact .cons_cons node (List.sublist_of_cons_sublist later)
          | cons_cons _ later => cases single
        obtain ⟨_, _, isGroup⟩ := exists_group_of_sublist distinct single again rfl
        rw [isGroup] at single
        cases single
      · rw [List.find?_cons, decide_eq_false same] at found
        cases order with
        | cons _ later => exact ih (nodup_ownNames_rest distinct) found later
        | cons_cons _ later => exact same name

end Finding

/-- When no duplicate was noticed, each leaf, repeatable and flow of a namespace is found by its
name unless a section of that name is before it; and then such a section is found. -/
theorem Form.finds_unless_section_before {form : Form} (free : DuplicateFree form.notices)
    {nodes : List Node} (isNamespace : IsNamespace form.fields nodes) {node : Node}
    (member : node ∈ spread nodes) (single : node.isGroup = false) :
    (findByName node.name nodes = some node ↔ ¬SectionBefore (spread nodes) node) ∧
    (SectionBefore (spread nodes) node → ∃ head fields,
      findByName node.name nodes = some (.group head fields) ∧
        [.group head fields, node].Sublist (spread nodes) ∧ head.name = node.name) := by
  have distinct := isNamespace.nodup_ownNames free
  rw [findByName_eq]
  have either := find?_or_section distinct single member
  refine ⟨⟨not_sectionBefore_of_find? distinct single, fun free => ?_⟩, fun before => ?_⟩
  · refine either.resolve_right ?_
    rintro ⟨head, fields, _, order, name⟩
    exact free ⟨head, fields, order, name⟩
  · exact either.resolve_left fun found =>
      not_sectionBefore_of_find? distinct single found before

/-- A section that holds a field of its own name, and a city. -/
def addressForm : Form :=
  { title := "Order"
    description := none
    kind := .standard
    steps := []
    fields := [.group ⟨"address", none, none, none, false, false, none, none⟩
      [.leaf (.fed "address" (.dependingOn [])), .leaf (.fed "city" (.dependingOn []))]]
    onSubmit := none
    submitButtonLabel := none
    validation := none }

/-- Nothing is noticed, and the city is found; but in place of the address its section is. -/
theorem address_notFound :
    let address : Node := .leaf (.fed "address" (.dependingOn []))
    let city : Node := .leaf (.fed "city" (.dependingOn []))
    addressForm.notices = [] ∧
      findByName "city" addressForm.fields = some city ∧
      findByName "address" addressForm.fields ≠ some address := by
  intro address city
  have quiet : addressForm.notices = [] := by decide +kernel
  have free : DuplicateFree addressForm.notices := fun _ _ member => by
    rw [quiet] at member
    cases member
  have cityFound := @Form.finds_unless_section_before _ free _ .root city
    (.tail _ (.tail _ (.head _))) rfl
  have addressFound := @Form.finds_unless_section_before _ free _ .root address
    (.tail _ (.head _)) rfl
  refine ⟨quiet, cityFound.1.mpr ?_, fun found => addressFound.1.mp found ?_⟩
  · rintro ⟨head, fields, order, name⟩
    have member : .group head fields ∈ spread addressForm.fields :=
      order.subset List.mem_cons_self
    rcases List.mem_cons.mp member with isSection | inside
    · cases isSection
      exact absurd name (by decide)
    · simp [spread, Node.spread] at inside
  · exact ⟨_, _, .cons_cons _ (.cons_cons _ (List.nil_sublist _)), rfl⟩

end DeclarativeForm
