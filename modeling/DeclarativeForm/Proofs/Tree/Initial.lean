import DeclarativeForm.Defaults
import DeclarativeForm.Proofs.Path.Frame
import DeclarativeForm.Proofs.Tree.Agreement
import DeclarativeForm.Proofs.Tree.Duplicate
import DeclarativeForm.Proofs.Tree.Inventory
import DeclarativeForm.Tree.Count

/-!
What a form starts with, read back along a walk. The values are built from the nodes that the
sections spread over each namespace, one member for a name; every item of a repeatable starts as
its template does. So where names differ, a walk over the values just built finds every leaf with
its own start, every repeatable with the items it has to have, and every flow empty.
-/

set_option autoImplicit false

namespace DeclarativeForm

/-! ### Adding what nodes start with -/

namespace Node

def startValue : Node → Option Json
  | leaf field => field.initialValue
  | group _ _ => none
  | repeatable head template => some (head.initialItems (initialValues template))
  | flow _ => none

def addStart (members : List (String × Json)) (node : Node) : List (String × Json) :=
  match node.startValue with
  | some value => Members.insert node.name value members
  | none => members

theorem find?_addStart_self (members : List (String × Json)) (node : Node) :
    Members.find? node.name (addStart members node) =
      node.startValue.or (Members.find? node.name members) := by
  unfold addStart
  cases node.startValue with
  | none => rfl
  | some value => exact Members.find?_insert_self node.name value members

theorem find?_addStart_other {name : String} {node : Node}
    (different : node.isGroup = false → node.name ≠ name) (members : List (String × Json)) :
    Members.find? name (addStart members node) = Members.find? name members := by
  unfold addStart
  cases start : node.startValue with
  | none => rfl
  | some value =>
      have single : node.isGroup = false := by
        cases node with
        | group head fields => cases start
        | _ => rfl
      exact Members.find?_insert_other (different single).symm value members

theorem addStart_group (members : List (String × Json)) (head : Section) (fields : List Node) :
    addStart members (group head fields) = members := rfl

end Node

mutual

private theorem Node.addDefaults_eq : ∀ (node : Node) (members : List (String × Json)),
    Node.addDefaults members node = (Node.spread node).foldl Node.addStart members
  | .leaf field, members => by
      rw [Node.addDefaults, Node.spread, List.foldl_cons, List.foldl_nil, Node.addStart,
        Node.startValue]
      rfl
  | .group head fields, members => by
      rw [Node.addDefaults, Node.spread, List.foldl_cons, Node.addStart_group,
        addDefaults_eq fields]
  | .repeatable head template, members => rfl
  | .flow field, members => rfl

/-- What a form starts with is added node by node, over the namespace. -/
theorem addDefaults_eq : ∀ (nodes : List Node) (members : List (String × Json)),
    addDefaults members nodes = (spread nodes).foldl Node.addStart members
  | [], members => rfl
  | node :: rest, members => by
      rw [addDefaults, spread, List.foldl_append, Node.addDefaults_eq node, addDefaults_eq rest]

end

theorem find?_foldl_addStart_other {name : String} {nodes : List Node}
    (absent : name ∉ ownNames nodes) (members : List (String × Json)) :
    Members.find? name (nodes.foldl Node.addStart members) = Members.find? name members := by
  induction nodes generalizing members with
  | nil => rfl
  | cons first rest ih =>
      have different : first.isGroup = false → first.name ≠ name := by
        intro single same
        exact absent (mem_ownNames.mpr ⟨first, List.mem_cons_self, single, same⟩)
      have later : name ∉ ownNames rest := by
        intro inRest
        exact absent ((ownNames_sublist (List.sublist_cons_self first rest)).mem inRest)
      rw [List.foldl_cons, ih later, Node.find?_addStart_other different]

/-- A node that shares its name with no other one is found with what it starts with. -/
theorem find?_foldl_addStart_self {nodes : List Node} (distinct : (ownNames nodes).Nodup)
    {node : Node} (member : node ∈ nodes) (single : node.isGroup = false)
    (members : List (String × Json)) :
    Members.find? node.name (nodes.foldl Node.addStart members) =
      node.startValue.or (Members.find? node.name members) := by
  induction nodes generalizing members with
  | nil => cases member
  | cons first rest ih =>
      rw [List.foldl_cons]
      rcases List.mem_cons.mp member with rfl | inRest
      · have absent : node.name ∉ ownNames rest := by
          rw [ownNames_cons single] at distinct
          exact (List.nodup_cons.mp distinct).1
        rw [find?_foldl_addStart_other absent, Node.find?_addStart_self]
      · have different : first.isGroup = false → first.name ≠ node.name := by
          intro isSingle same
          rw [ownNames_cons isSingle, same] at distinct
          exact (List.nodup_cons.mp distinct).1
            (mem_ownNames.mpr ⟨node, inRest, single, rfl⟩)
        rw [ih (nodup_ownNames_rest distinct) inRest, Node.find?_addStart_other different]

theorem member?_initialValues {nodes : List Node} (distinct : (ownNames (spread nodes)).Nodup)
    {node : Node} (member : node ∈ spread nodes) (single : node.isGroup = false) :
    (initialValues nodes).member? node.name = node.startValue := by
  rw [initialValues, Json.member?, addDefaults_eq, find?_foldl_addStart_self distinct member single,
    Members.find?_nil, Option.or_none]

/-! ### Places -/

/-- As many items as a repeatable has to have, at least one of them; none if nothing is said. -/
def Repeatable.startCount (head : Repeatable) : Nat :=
  match head.minItems with
  | some least => max least 1
  | none => 0

theorem Repeatable.initialItems_eq {head : Repeatable} (bare : head.defaultValue = none)
    (fresh : Json) : head.initialItems fresh = .array (List.replicate head.startCount fresh) := by
  unfold initialItems startCount
  rw [bare]
  cases head.minItems <;> rfl

theorem IsNamespace.mem_everyNode {fields nodes : List Node}
    (isNamespace : IsNamespace fields nodes) {node : Node} (member : node ∈ everyNode nodes) :
    node ∈ everyNode fields := by
  induction isNamespace with
  | root => exact member
  | template _ inOuter ih =>
      exact ih (everyNode_of_spread (List.mem_cons_of_mem _ member) _ inOuter)

/-- The names of leaves, repeatables and flows differ in every namespace, and no repeatable has a
default value. -/
structure PlainStart (fields : List Node) : Prop where
  distinct : ∀ nodes, IsNamespace fields nodes → (ownNames (spread nodes)).Nodup
  noDefault : ∀ head template, .repeatable head template ∈ everyNode fields → head.defaultValue = none

structure HoldsStart (fields : List Node) (values : Json) (nodes : List Node)
    (context : Context) : Prop where
  isNamespace : IsNamespace fields nodes
  holds : context.parent.get? values = some (initialValues nodes)

namespace HoldsStart

variable {fields nodes : List Node} {values : Json} {context : Context}

theorem get?_pathFor (start : HoldsStart fields values nodes context) (plain : PlainStart fields)
    {node : Node} (member : node ∈ spread nodes) (single : node.isGroup = false) :
    (context.pathFor node.name).get? values = node.startValue := by
  have distinct := plain.distinct nodes start.isNamespace
  rw [Context.pathFor, FieldPath.get?_child, start.holds, Option.bind_some,
    member?_initialValues distinct member single]

theorem get?_items (start : HoldsStart fields values nodes context) (plain : PlainStart fields)
    {head : Repeatable} {template : List Node} (member : .repeatable head template ∈ spread nodes) :
    (context.pathFor head.name).get? values =
      some (.array (List.replicate head.startCount (initialValues template))) := by
  have inForm : .repeatable head template ∈ everyNode fields :=
    start.isNamespace.mem_everyNode (everyNode_of_spread (Node.mem_everyNode_self _) _ member)
  have found := start.get?_pathFor plain member rfl
  rw [Node.startValue, Repeatable.initialItems_eq (plain.noDefault head template inForm)] at found
  exact found

theorem itemCount_eq (start : HoldsStart fields values nodes context) (plain : PlainStart fields)
    {head : Repeatable} {template : List Node} (member : .repeatable head template ∈ spread nodes) :
    itemCount (context.pathFor head.name) values = head.startCount := by
  rw [FieldPath.itemCount_eq, start.get?_items plain member]
  exact List.length_replicate

theorem enterItem (start : HoldsStart fields values nodes context) (plain : PlainStart fields)
    {head : Repeatable} {template : List Node} (member : .repeatable head template ∈ spread nodes)
    {index : Nat} (inRange : index < itemCount (context.pathFor head.name) values) :
    HoldsStart fields values template (context.enterItem (context.pathFor head.name) index) := by
  rw [start.itemCount_eq plain member] at inRange
  constructor
  · exact .template start.isNamespace member
  · rw [Context.enterItem, FieldPath.get?_item, start.get?_items plain member, Option.bind_some,
      Json.items_array, List.getElem?_replicate, if_pos inRange]

end HoldsStart

/-! ### Along a walk -/

/-- A leaf holds its own start, a repeatable the items it has to have, and a flow nothing. -/
def Visit.StartsAsDeclared (values : Json) (visit : Visit) : Prop :=
  match visit.node with
  | .leaf field => visit.path.get? values = field.initialValue
  | .group _ _ => True
  | .repeatable head _ => ∃ items, visit.path.get? values = some (.array items) ∧
      items.length = head.startCount
  | .flow _ => visit.path.get? values = none

mutual

private theorem Node.startsAsDeclared {fields : List Node} (plain : PlainStart fields)
    {values : Json} {visit : Visit} : ∀ (node : Node) {nodes : List Node} {context : Context},
      HoldsStart fields values nodes context → Node.spread node ⊆ spread nodes →
        visit ∈ Node.walk .everything values context node → visit.StartsAsDeclared values
  | .leaf field, nodes, context, start, inside, member => by
      have here : .leaf field ∈ spread nodes := inside List.mem_cons_self
      rw [Node.walk, admits_everything, if_pos rfl, List.mem_singleton] at member
      subst member
      exact start.get?_pathFor plain here rfl
  | .group head inner, nodes, context, start, inside, member => by
      rw [Node.walk, admits_everything, if_pos rfl, List.mem_cons] at member
      rcases member with rfl | later
      · trivial
      · have spreads : spread inner ⊆ spread nodes := fun _ isInner =>
          inside (List.mem_cons_of_mem _ isInner)
        exact startsAsDeclared plain inner start spreads later
  | .repeatable head template, nodes, context, start, inside, member => by
      have here : .repeatable head template ∈ spread nodes := inside List.mem_cons_self
      rw [Node.walk, admits_everything, if_pos rfl, List.mem_cons] at member
      rcases member with rfl | later
      · exact ⟨_, start.get?_items plain here, List.length_replicate⟩
      · obtain ⟨index, inRange, inItem⟩ := List.mem_flatMap.mp later
        have item := start.enterItem plain here (List.mem_range.mp inRange)
        exact startsAsDeclared plain template item (List.Subset.refl _) inItem
  | .flow field, nodes, context, start, inside, member => by
      have here : .flow field ∈ spread nodes := inside List.mem_cons_self
      rw [Node.walk, admits_everything, if_pos rfl, List.mem_singleton] at member
      subst member
      exact start.get?_pathFor plain here rfl

private theorem startsAsDeclared {fields : List Node} (plain : PlainStart fields)
    {values : Json} {visit : Visit} : ∀ (peers : List Node) {nodes : List Node} {context : Context},
      HoldsStart fields values nodes context → spread peers ⊆ spread nodes →
        visit ∈ walk .everything values context peers → visit.StartsAsDeclared values
  | [], _, _, _, _, member => nomatch member
  | node :: rest, nodes, context, start, inside, member => by
      rcases List.mem_append.mp member with here | later
      · have spreads : Node.spread node ⊆ spread nodes := fun _ isHere =>
          inside (List.mem_append_left _ isHere)
        exact Node.startsAsDeclared plain node start spreads here
      · have spreads : spread rest ⊆ spread nodes := fun _ isLater =>
          inside (List.mem_append_right _ isLater)
        exact startsAsDeclared plain rest start spreads later

end

/-- With at least one item, as many as are asked for and no more than are allowed, a repeatable has
no error. -/
theorem Repeatable.countError?_startCount {head : Repeatable} {least : Nat}
    (bounded : head.minItems = some least)
    (fits : ∀ most, head.maxItemCount = some most → max least 1 ≤ most) :
    head.countError? (max least 1) = none := by
  have enough : ¬max least 1 < least := by omega
  have notEmpty : (max least 1 == 0) = false := by
    rw [beq_eq_false_iff_ne]
    omega
  have required : head.lacksRequired (max least 1) = none := by
    unfold lacksRequired
    cases head.rule RuleSet.required <;> simp [notEmpty]
  unfold countError?
  rw [required, bounded]
  cases limit : head.maxItemCount with
  | none => simp [enough]
  | some most =>
      have few : ¬most < max least 1 := Nat.not_lt.mpr (fits most limit)
      simp only [if_neg enough, if_neg few, Option.or_none]

/-- A form starts as a walk over it reads it, and no repeatable that asks for items lacks any. -/
theorem initialValues_asDeclared {fields : List Node} (plain : PlainStart fields) :
    (∀ visit ∈ walk .everything (initialValues fields) .root fields,
      visit.StartsAsDeclared (initialValues fields)) ∧
    (∀ visit ∈ walk .everything (initialValues fields) .root fields, ∀ head template least,
      visit.node = .repeatable head template → head.minItems = some least →
        (∀ most, head.maxItemCount = some most → max least 1 ≤ most) →
          head.countError? (itemCount visit.path (initialValues fields)) = none) := by
  have start : HoldsStart fields (initialValues fields) fields .root := ⟨.root, rfl⟩
  have asDeclared : ∀ visit ∈ walk .everything (initialValues fields) .root fields,
      visit.StartsAsDeclared (initialValues fields) := fun _ member =>
    startsAsDeclared plain fields start (List.Subset.refl _) member
  constructor
  · exact asDeclared
  · intro visit member head template least isRepeatable bounded fits
    have items := asDeclared visit member
    rw [Visit.StartsAsDeclared, isRepeatable] at items
    obtain ⟨list, found, length⟩ := items
    rw [Repeatable.startCount, bounded] at length
    have count : itemCount visit.path (initialValues fields) = max least 1 := by
      rw [FieldPath.itemCount_eq, found]
      exact length
    rw [count]
    exact Repeatable.countError?_startCount bounded fits

def twoLines : Repeatable :=
  { Repeatable.named "lines" with
    validation := some ⟨none, none, none, some ⟨.ofNat 2, ""⟩, none, none, none⟩ }

def lineTemplate : List Node :=
  [.leaf { Leaf.fed "currency" (.dependingOn []) with defaultValue := some (.string "EUR") }]

def orderTemplate : List Node :=
  [.leaf (.fed "currency" (.dependingOn [])), .repeatable twoLines lineTemplate]

def nestedOrders : List Node := [.repeatable { twoLines with name := "orders" } orderTemplate]

theorem nestedOrders_plainStart : PlainStart nestedOrders := by
  have namespaces : ∀ nodes, IsNamespace nestedOrders nodes →
      nodes = nestedOrders ∨ nodes = orderTemplate ∨ nodes = lineTemplate := by
    intro nodes isNamespace
    induction isNamespace with
    | root => exact Or.inl rfl
    | template _ member ih =>
        rcases ih with rfl | rfl | rfl
        · cases List.mem_singleton.mp member
          exact Or.inr (Or.inl rfl)
        · cases List.mem_singleton.mp ((List.mem_cons.mp member).resolve_left nofun)
          exact Or.inr (Or.inr rfl)
        · cases List.mem_singleton.mp member
  constructor
  · intro nodes isNamespace
    rcases namespaces nodes isNamespace with rfl | rfl | rfl <;> decide
  · intro head template member
    simp only [nestedOrders, orderTemplate, lineTemplate, everyNode, Node.everyNode,
      List.append_nil, List.cons_append, List.nil_append, List.mem_cons, Node.repeatable.injEq,
      reduceCtorEq, List.not_mem_nil, or_self, or_false, false_or] at member
    rcases member with ⟨rfl, _⟩ | ⟨rfl, _⟩ <;> rfl

theorem nestedOrders_asDeclared :
    let values := initialValues nestedOrders
    let order := (FieldPath.key "orders").item 1
    PlainStart nestedOrders ∧ (order.child "currency").get? values = none ∧
      (((order.child "lines").item 0).child "currency").get? values = some (.string "EUR") ∧
      twoLines.countError? (itemCount (order.child "lines") values) = none := by
  intro values order
  obtain ⟨asDeclared, noError⟩ := initialValues_asDeclared nestedOrders_plainStart
  have orders : 1 < itemCount (.key "orders") values := by decide +kernel
  have lines : 0 < itemCount (order.child "lines") values := by decide +kernel
  have inOrder : ∀ visit ∈ walk .everything values (Context.root.enterItem (.key "orders") 1)
      orderTemplate, visit ∈ walk .everything values .root nestedOrders := by
    intro visit member
    exact mem_walk_of_item (List.mem_cons_self : _ ∈ spread nestedOrders) orders member
  have inLine : ∀ visit ∈ walk .everything values
      ((Context.root.enterItem (.key "orders") 1).enterItem (order.child "lines") 0) lineTemplate,
      visit ∈ walk .everything values .root nestedOrders := by
    intro visit member
    have isNested : .repeatable twoLines lineTemplate ∈ spread orderTemplate := by
      simp [orderTemplate, spread, Node.spread]
    exact inOrder visit (mem_walk_of_item isNested lines member)
  have two : twoLines.minItems = some 2 := by decide +kernel
  refine ⟨nestedOrders_plainStart, asDeclared _ (inOrder _ List.mem_cons_self),
    asDeclared _ (inLine _ List.mem_cons_self), ?_⟩
  apply noError _ (inOrder _ (List.mem_cons_of_mem _ List.mem_cons_self)) twoLines lineTemplate 2
    rfl two
  intro most bounded
  cases bounded

end DeclarativeForm
