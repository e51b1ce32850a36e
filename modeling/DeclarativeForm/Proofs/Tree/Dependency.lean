import DeclarativeForm.Proofs.Tree.Inventory
import Mathlib.Logic.Relation

/-!
What the arguments of a source depend on. An entry that is a single name is looked for in the items
around the leaf and then at the root. If no repeatable has that name, a write to a leaf changes what
is found only if the leaf has the name; so the arguments of a leaf stay the same while all leaves
that are written have names which it does not depend on.
-/

set_option autoImplicit false

namespace DeclarativeForm

open FieldPath

def Leads (fields : List Node) (name entry : String) : Prop :=
  ∃ node ∈ everyNode fields, node.name = name ∧ entry ∈ node.entries

def Leaf.DependsOn (fields : List Node) (field : Leaf) (name : String) : Prop :=
  ∃ entry ∈ (Node.leaf field).entries, Relation.ReflTransGen (Leads fields) entry name

/-- The entries of sources are single names that no repeatable has. -/
def SimplyKeyed (fields : List Node) : Prop :=
  ∀ node ∈ everyNode fields, ∀ entry ∈ node.entries, isPlainName entry = true ∧
    ∀ other ∈ everyNode fields, other.isRepeatable = true → other.name ≠ entry

instance (fields : List Node) : Decidable (SimplyKeyed fields) :=
  inferInstanceAs (Decidable (∀ node ∈ everyNode fields, _))

/-- The leaves fed by sources are always shown, and what they depend on are single names that do not
lead back to themselves. -/
structure Cascades (fields : List Node) : Prop where
  named : WellNamed fields
  shown : AlwaysShown fields
  keyed : SimplyKeyed fields
  acyclic : ∀ name, ¬Relation.TransGen (Leads fields) name name

theorem acyclic_of_rank {fields : List Node} (rank : String → Nat)
    (lower : ∀ node ∈ everyNode fields, ∀ entry ∈ node.entries, rank entry < rank node.name)
    (name : String) : ¬Relation.TransGen (Leads fields) name name := by
  have falls {first last : String} (leads : Relation.TransGen (Leads fields) first last) :
      rank last < rank first := by
    induction leads with
    | single step =>
        obtain ⟨node, member, rfl, entry⟩ := step
        exact lower node member _ entry
    | tail _ step ih =>
        obtain ⟨node, member, rfl, entry⟩ := step
        exact Nat.lt_trans (lower node member _ entry) ih
  exact fun around => Nat.lt_irrefl _ (falls around)

/-! ### Looking names up -/

private theorem findSome?_filterMap {α β γ : Type} (inner : α → Option β) (outer : β → Option γ)
    (items : List α) :
    (items.filterMap inner).findSome? outer =
      items.findSome? fun item => (inner item).bind outer := by
  induction items with
  | nil => rfl
  | cons item rest ih =>
      rw [List.findSome?_cons]
      cases found : inner item with
      | none =>
          rw [List.filterMap_cons_none found, ih]
          rfl
      | some value =>
          rw [List.filterMap_cons_some found, List.findSome?_cons, ih]
          rfl

/-- A path is looked for below each item around a place and then at the root. -/
theorem Scope.find?_within (root : Json) (items : List FieldPath) (path : FieldPath) :
    (within root items).find? path =
      (items.reverse.findSome? fun item => getAt (item.segments ++ path.segments) root).or
        (path.get? root) := by
  simp only [find?, within, findSome?_filterMap]
  congr 2
  funext item
  rw [getAt_append]
  rfl

theorem lookup_eq {entry : String} (plain : isPlainName entry = true) (place : Context)
    (values : Json) :
    (place.scope values).lookup entry =
      (place.items.reverse.findSome? fun item => (item.child entry).get? values).or
        ((FieldPath.key entry).get? values) := by
  rw [Scope.lookup, parse_of_isPlainName plain]
  exact Scope.find?_within values place.items (.key entry)

theorem findSome?_congr {α β : Type} {one two : α → Option β} (items : List α)
    (same : ∀ item ∈ items, one item = two item) : items.findSome? one = items.findSome? two := by
  induction items with
  | nil => rfl
  | cons item rest ih =>
      rw [List.findSome?_cons, List.findSome?_cons, same item List.mem_cons_self,
        ih fun other member => same other (List.mem_cons_of_mem _ member)]

theorem lookup_congr {entry : String} (plain : isPlainName entry = true) {place : Context}
    {before after : Json}
    (inItems : ∀ item ∈ place.items,
      (item.child entry).get? after = (item.child entry).get? before)
    (atRoot : (FieldPath.key entry).get? after = (FieldPath.key entry).get? before) :
    (place.scope after).lookup entry = (place.scope before).lookup entry := by
  have inOrder := findSome?_congr place.items.reverse fun item member =>
    inItems item (List.mem_reverse.mp member)
  rw [lookup_eq plain, lookup_eq plain, atRoot, inOrder]

theorem isShown_congr {showWhen : Option ConditionGroup} {before after : Scope}
    (same : ∀ group, showWhen = some group → ∀ condition ∈ group.conditions,
      after.lookup condition.field = before.lookup condition.field) :
    isShown showWhen after = isShown showWhen before := by
  cases showWhen with
  | none => rfl
  | some group =>
      have holds : ∀ condition ∈ group.conditions,
          condition.holds after = condition.holds before := by
        intro condition member
        rw [Condition.holds, same group rfl condition member]
        rfl
      simp only [isShown, ConditionGroup.holds]
      cases group.logic with
      | all =>
          rw [Bool.eq_iff_iff, List.all_eq_true, List.all_eq_true]
          exact forall₂_congr fun condition member => by rw [holds condition member]
      | any =>
          rw [Bool.eq_iff_iff, List.any_eq_true, List.any_eq_true]
          refine exists_congr fun condition => and_congr_right fun member => ?_
          rw [holds condition member]

private theorem dependencyValues_congr {before after : Scope} (paths : List String)
    (same : ∀ path ∈ paths, after.lookup path = before.lookup path) :
    dependencyValues after paths = dependencyValues before paths := by
  induction paths with
  | nil => rfl
  | cons path rest ih =>
      rw [dependencyValues, dependencyValues, same path List.mem_cons_self,
        ih fun other member => same other (List.mem_cons_of_mem _ member)]

theorem argsIn_congr {source : OptionsSource} {before after : Scope}
    (same : ∀ entry ∈ source.dependencies ++ source.params,
      after.lookup entry = before.lookup entry) :
    source.argsIn after = source.argsIn before := by
  have params : source.params.map after.lookupOrNull = source.params.map before.lookupOrNull := by
    refine List.map_congr_left fun entry member => ?_
    rw [Scope.lookupOrNull, same entry (List.mem_append_right _ member), Scope.lookupOrNull]
  rw [OptionsSource.argsIn, params, dependencyValues_congr source.dependencies fun entry member =>
    same entry (List.mem_append_left _ member), OptionsSource.argsIn]

/-! ### Where a name is looked for -/

/-- Segments that go into items and end in a name, whether a node has the name or not. -/
inductive Probes (name : String) : List Node → List Segment → Prop
  | here {fields : List Node} : Probes name fields [.key name]
  | inside {fields template : List Node} {outer : String} {head : Repeatable} {position : Nat}
      {rest : List Segment} (found : findByName outer fields = some (.repeatable head template))
      (later : Probes name template rest) :
      Probes name fields (.key outer :: .index position :: rest)

/-- A name below an item around a node is a probe. -/
theorem Addresses.probes {fields : List Node} {context : Context} {segments : List Segment}
    {located : Located} (addresses : Addresses fields context segments located) (name : String)
    {item : FieldPath} (member : item ∈ located.context.items) :
    item ∈ context.items ∨ ∃ rest, Probes name fields rest ∧
      item.child name = ⟨context.parent.segments ++ rest⟩ := by
  induction addresses with
  | here => exact Or.inl member
  | @inside fields template context outer head position rest located found _ ih =>
      have named : head.name = outer := (mem_spread_of_findByName found).2
      rcases ih member with around | ⟨segments, probes, same⟩
      · rcases List.mem_append.mp around with earlier | isHere
        · exact Or.inl earlier
        · rw [List.mem_singleton.mp isHere]
          refine Or.inr ⟨.key outer :: .index position :: [.key name], .inside found .here, ?_⟩
          simp [FieldPath.child, FieldPath.item, Context.pathFor, named]
      · refine Or.inr ⟨.key outer :: .index position :: segments, .inside found probes, ?_⟩
        rw [same]
        simp [FieldPath.child, FieldPath.item, Context.pathFor, Context.enterItem, named]

/-- A leaf is apart from where a name is looked for, unless it has the name. -/
theorem Probes.compare {name : String} {fields : List Node} {context place : Context}
    {one two : List Segment} {field : Leaf} (probes : Probes name fields two)
    (addresses : Addresses fields context one ⟨.leaf field, place⟩)
    (free : ∀ other ∈ everyNode fields, other.isRepeatable = true → other.name ≠ name) :
    Apart one two ∨ one = two ∧ field.name = name := by
  generalize leaf : Located.mk (.leaf field) place = located at addresses
  induction probes generalizing one context with
  | here =>
      cases addresses with
      | @here _ _ own node found =>
          cases leaf
          by_cases same : own = name
          · subst same
            exact Or.inr ⟨rfl, (mem_spread_of_findByName found).2⟩
          · exact Or.inl (.key same)
      | @inside _ _ _ outer _ _ _ _ found _ =>
          have different := free _ (mem_everyNode_of_findByName found) rfl
          rw [(mem_spread_of_findByName found).2] at different
          exact Or.inl (.key different)
  | @inside fields template outer head position rest found _ ih =>
      cases addresses with
      | @here _ _ own node ownFound =>
          refine Or.inl (.key ?_)
          rintro rfl
          rw [found] at ownFound
          cases ownFound
          cases leaf
      | @inside _ _ _ own _ ownPosition _ _ ownFound later =>
          by_cases same : own = outer
          · subst same
            rw [found] at ownFound
            cases ownFound
            by_cases samePosition : ownPosition = position
            · subst samePosition
              rcases ih (fun other member => free other (everyNode_template_subset found member))
                later with apart | ⟨rfl, equal⟩
              · exact Or.inl (.step (.step apart))
              · exact Or.inr ⟨rfl, equal⟩
            · exact Or.inl (.step (.index samePosition))
          · exact Or.inl (.key same)

/-! ### Downstream of a name -/

def IsDownstream (fields : List Node) (name : String) (path : FieldPath) : Prop :=
  ∃ field place, Addresses fields .root path.segments ⟨.leaf field, place⟩ ∧
    field.DependsOn fields name

def SpreadsWithin (fields : List Node) (name : String) (origin : FieldPath)
    (before after : Json) : Prop :=
  ∀ path : FieldPath, Apart origin.segments path.segments →
    (∀ target, IsDownstream fields name target → Apart target.segments path.segments) →
    path.get? after = path.get? before

variable {fields : List Node}

theorem Cascades.not_dependsOn_self (cascades : Cascades fields) {field : Leaf}
    (member : .leaf field ∈ everyNode fields) : ¬field.DependsOn fields field.name := by
  rintro ⟨entry, isEntry, leads⟩
  exact cascades.acyclic field.name (.head' ⟨.leaf field, member, rfl, isEntry⟩ leads)

theorem IsDownstream.apart {name : String} {target : FieldPath} {segments : List Segment}
    {field : Leaf} {place : Context} (downstream : IsDownstream fields name target)
    (addresses : Addresses fields .root segments ⟨.leaf field, place⟩)
    (independent : ¬field.DependsOn fields name) : Apart target.segments segments := by
  obtain ⟨other, around, there, depends⟩ := downstream
  rcases there.compare_leaves addresses with apart | ⟨_, same, _⟩
  · exact apart
  · rw [same] at independent
    exact absurd depends independent

private theorem Probes.get?_eq {leaf : Leaf} {place : Context} {origin : FieldPath}
    {before after : Json} (spreads : SpreadsWithin fields leaf.name origin before after)
    (written : Addresses fields .root origin.segments ⟨.leaf leaf, place⟩) {entry : String}
    {segments : List Segment} (probes : Probes entry fields segments)
    (free : ∀ other ∈ everyNode fields, other.isRepeatable = true → other.name ≠ entry)
    (elsewhere : ¬Relation.ReflTransGen (Leads fields) entry leaf.name) :
    FieldPath.get? ⟨segments⟩ after = FieldPath.get? ⟨segments⟩ before := by
  apply spreads
  · rcases probes.compare written free with apart | ⟨_, same⟩
    · exact apart
    · rw [same] at elsewhere
      exact absurd .refl elsewhere
  · rintro target ⟨other, spot, there, next, isNext, leads⟩
    rcases probes.compare there free with apart | ⟨_, same⟩
    · exact apart
    · have step : Leads fields entry next := ⟨.leaf other, there.mem_everyNode, same, isNext⟩
      exact absurd (leads.head step) elsewhere

/-- While a write to a leaf spreads, the arguments of a leaf that does not depend on the name
written to are as before. -/
theorem Cascades.argsIn_eq (cascades : Cascades fields) {leaf : Leaf} {place : Context}
    {origin : FieldPath} {before after : Json}
    (spreads : SpreadsWithin fields leaf.name origin before after)
    (written : Addresses fields .root origin.segments ⟨.leaf leaf, place⟩) {field : Leaf}
    {around : Context} {segments : List Segment} {source : OptionsSource}
    (here : Addresses fields .root segments ⟨.leaf field, around⟩)
    (fed : field.optionsSource = some source) (independent : ¬field.DependsOn fields leaf.name) :
    source.argsIn (around.scope after) = source.argsIn (around.scope before) := by
  refine argsIn_congr fun entry isEntry => ?_
  have listed : entry ∈ (Node.leaf field).entries := by
    rw [Node.entries, fed]
    exact isEntry
  obtain ⟨plain, free⟩ := cascades.keyed _ here.mem_everyNode entry listed
  have elsewhere : ¬Relation.ReflTransGen (Leads fields) entry leaf.name :=
    fun leads => independent ⟨entry, listed, leads⟩
  have unchanged {probed : List Segment} (probes : Probes entry fields probed) :=
    probes.get?_eq spreads written free elsewhere
  refine lookup_congr plain (fun item isItem => ?_) (unchanged .here)
  rcases here.probes entry isItem with outside | ⟨rest, probes, same⟩
  · cases outside
  · rw [same]
    exact unchanged probes

end DeclarativeForm
