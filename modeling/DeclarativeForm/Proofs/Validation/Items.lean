import DeclarativeForm.Proofs.Tree.Shift
import DeclarativeForm.Proofs.Validation.Derivation

/-!
Items are validated independently. Validation of an item reads the item, the values outside its list
and the number of items; it reads nothing in the other items, unless something is looked up by the
name of the list. So values that agree in one item and outside the list have the same errors there.
-/

set_option autoImplicit false

namespace DeclarativeForm

open FieldPath

/-- Segments that lead past a list or into its item at an index. The list itself is neither. -/
inductive Beside (name : String) (index : Nat) : List Segment → Prop
  | past {first : String} (different : first ≠ name) (rest : List Segment) :
      Beside name index (.key first :: rest)
  | inItem (rest : List Segment) : Beside name index (.key name :: .index index :: rest)

/-- Two values agree but for the items of a list other than the one at an index. -/
structure AgreeBeside (name : String) (index : Nat) (first second : Json) : Prop where
  values : ∀ segments, Beside name index segments → getAt segments first = getAt segments second
  count : itemCount (.key name) first = itemCount (.key name) second

def Node.compared : Node → List String
  | .leaf field => field.crossValidation.flatMap CrossRule.dependsOn
  | _ => []

def Node.consulted (node : Node) : List String :=
  node.compared ++ match node.showWhen with
    | some shown => shown.conditions.map (·.field)
    | none => []

def ConsultsPast (name : String) (nodes : List Node) : Prop :=
  ∀ node ∈ nodes, ∀ entry ∈ node.consulted, firstKey? entry ≠ some name

instance (name : String) (nodes : List Node) : Decidable (ConsultsPast name nodes) :=
  inferInstanceAs (Decidable (∀ node ∈ nodes, _))

variable {name : String} {index : Nat} {first second : Json} {place : Context}

/-! ### Paths -/

namespace Beside

theorem append {segments : List Segment} (beside : Beside name index segments)
    (later : List Segment) : Beside name index (segments ++ later) := by
  cases beside with
  | past different rest => exact .past different _
  | inItem rest => exact .inItem _

/-- What leads to a list on the way is beside the list, unless it is the list itself. -/
theorem front {front later : List Segment} {position : Nat}
    (beside : Beside name index (front ++ .index position :: later)) :
    Beside name index front ∨ front = [.key name] ∧ position = index := by
  cases front with
  | nil => nomatch beside
  | cons segment rest =>
      cases segment with
      | index => nomatch beside
      | key outer =>
          by_cases same : outer = name
          · subst same
            cases rest with
            | nil =>
                cases beside with
                | past different => exact absurd rfl different
                | inItem => exact Or.inr ⟨rfl, rfl⟩
            | cons next rest =>
                cases beside with
                | past different => exact absurd rfl different
                | inItem => exact Or.inl (.inItem rest)
          · exact Or.inl (.past same rest)

theorem item {front later : List Segment} {position : Nat}
    (beside : Beside name index (front ++ .index position :: later)) :
    Beside name index (front ++ [.index position]) := by
  rcases beside.front with onTheWay | ⟨rfl, rfl⟩
  · exact onTheWay.append _
  · exact .inItem []

end Beside

def Context.IsBeside (name : String) (index : Nat) (place : Context) : Prop :=
  ∀ item ∈ place.items, Beside name index item.segments

/-- What is around a node that a path beside the list leads to is beside the list. -/
theorem Addresses.isBeside {fields : List Node} {context : Context} {segments : List Segment}
    {located : Located} (addresses : Addresses fields context segments located)
    (beside : Beside name index (context.parent.segments ++ segments))
    (around : context.IsBeside name index) : located.context.IsBeside name index := by
  induction addresses with
  | here => exact around
  | @inside fields template context outer head position rest located found _ ih =>
      have isNamed : head.name = outer := (mem_spread_of_findByName found).2
      let entered := context.enterItem (context.pathFor head.name) position
      have whole : entered.parent.segments ++ rest =
          context.parent.segments ++ .key outer :: .index position :: rest := by
        simp [entered, Context.enterItem, Context.pathFor, child, item, isNamed]
      have item : Beside name index entered.parent.segments := by
        have front : entered.parent.segments =
            (context.parent.segments ++ [.key outer]) ++ [.index position] := by
          simp [entered, Context.enterItem, Context.pathFor, child, item, isNamed]
        rw [front]
        have onTheWay : Beside name index
            ((context.parent.segments ++ [.key outer]) ++ .index position :: rest) := by
          rwa [List.append_assoc]
        exact onTheWay.item
      refine ih (whole ▸ beside) fun other member => ?_
      rcases List.mem_append.mp member with outside | isHere
      · exact around other outside
      · exact List.mem_singleton.mp isHere ▸ item

/-! ### What is read -/

namespace AgreeBeside

theorem symm (agree : AgreeBeside name index first second) : AgreeBeside name index second first :=
  ⟨fun segments beside => (agree.values segments beside).symm, agree.count.symm⟩

/-- Lists that agree in length and in one item agree beside it, wherever they are written. -/
theorem of_items (members : List (String × Json)) {items others : List Json}
    (length : items.length = others.length) (kept : items[index]? = others[index]?) :
    AgreeBeside name index (.object (Members.insert name (.array items) members))
      (.object (Members.insert name (.array others) members)) := by
  have found (list : List Json) :
      Members.find? name (Members.insert name (.array list) members) = some (.array list) :=
    Members.find?_insert_self _ _ _
  constructor
  · intro segments beside
    cases beside with
    | past different rest =>
        rw [getAt, getAt, Members.find?_insert_other different, Members.find?_insert_other different]
    | inItem rest =>
        rw [getAt, getAt, found, found, Option.bind_some, Option.bind_some, getAt, getAt, kept]
  · simp only [itemCount, FieldPath.key, get?, getAt, found, Option.bind_some, length]

theorem itemCount_eq (agree : AgreeBeside name index first second) {path : FieldPath}
    {position : Nat} (beside : Beside name index (path.item position).segments) :
    itemCount path first = itemCount path second := by
  obtain ⟨segments⟩ := path
  rcases Beside.front beside with onTheWay | ⟨rfl, rfl⟩
  · rw [FieldPath.itemCount_eq, FieldPath.itemCount_eq, get?, get?, agree.values _ onTheWay]
  · exact agree.count

theorem find?_eq (agree : AgreeBeside name index first second) (around : place.IsBeside name index)
    {path : FieldPath} (beside : Beside name index path.segments) :
    (place.scope first).find? path = (place.scope second).find? path := by
  have inItems := findSome?_congr place.items.reverse fun item member =>
    agree.values _ ((around item (List.mem_reverse.mp member)).append path.segments)
  rw [Context.scope, Context.scope, Scope.find?_within, Scope.find?_within, inItems, get?, get?,
    agree.values _ beside]

theorem lookup_eq (agree : AgreeBeside name index first second)
    (around : place.IsBeside name index) {entry : String} (past : firstKey? entry ≠ some name) :
    (place.scope first).lookup entry = (place.scope second).lookup entry := by
  rw [Scope.lookup, Scope.lookup]
  cases read : parse entry with
  | error fault => rfl
  | ok path =>
      obtain ⟨segments⟩ := path
      obtain ⟨outer, rest, split⟩ := exists_key_of_parse read
      obtain rfl : segments = .key outer :: rest := split
      have different : outer ≠ name := by
        rintro rfl
        exact past (by rw [firstKey?, read])
      exact agree.find?_eq around (.past different rest)

theorem lookup_text_eq (agree : AgreeBeside name index first second)
    (around : place.IsBeside name index) {path : FieldPath} (plain : IsPlain path.segments)
    (beside : Beside name index path.segments) :
    (place.scope first).lookup path.text = (place.scope second).lookup path.text := by
  rw [Scope.lookup, Scope.lookup]
  cases read : parse path.text with
  | error fault => rfl
  | ok found => exact eq_of_parse_text plain.isWritable read ▸ agree.find?_eq around beside

theorem isShown_eq (agree : AgreeBeside name index first second) (around : place.IsBeside name index)
    (node : Node) (past : ∀ entry ∈ node.consulted, firstKey? entry ≠ some name) :
    isShown node.showWhen (place.scope first) = isShown node.showWhen (place.scope second) := by
  refine isShown_congr fun group shown condition member => agree.lookup_eq around (past _ ?_)
  rw [Node.consulted, shown]
  exact List.mem_append_right _ (List.mem_map_of_mem member)

end AgreeBeside

/-! ### What is visible -/

private theorem everyNode_of_mem {node : Node} {nodes : List Node} (member : node ∈ nodes) :
    node.everyNode ⊆ everyNode nodes := by
  induction nodes with
  | nil => cases member
  | cons other rest ih =>
      rcases List.mem_cons.mp member with rfl | later
      · exact List.subset_append_left _ _
      · exact List.Subset.trans (ih later) (List.subset_append_right _ _)

theorem Exposed.items_subset {nodes : List Node} {context : Context} {node : Node}
    (exposed : Exposed first nodes context node place) : context.items ⊆ place.items := by
  induction exposed with
  | here => exact List.Subset.refl _
  | inSection _ _ _ ih => exact ih
  | inItem _ _ _ _ ih => exact List.Subset.trans (List.subset_append_left _ _) ih

/-- What is exposed beside the list is exposed whatever is in its other items. -/
theorem Exposed.of_agree (agree : AgreeBeside name index first second) {nodes : List Node}
    {context : Context} {node : Node} (exposed : Exposed first nodes context node place)
    (past : ConsultsPast name (everyNode nodes)) (around : place.IsBeside name index) :
    Exposed second nodes context node place := by
  induction exposed with
  | here member => exact .here member
  | @inSection nodes fields context place head node member shown later ih =>
      have outer : context.IsBeside name index := fun item isAround =>
        around item (later.items_subset isAround)
      have same := agree.isShown_eq outer (.group head fields)
        (past _ (everyNode_of_mem member (Node.mem_everyNode_self _)))
      have inside : ConsultsPast name (everyNode fields) := fun peer isPeer =>
        past peer (everyNode_of_mem member (List.mem_cons_of_mem _ isPeer))
      exact .inSection member (same.symm.trans shown) (ih inside around)
  | @inItem nodes template context place head node position member shown inRange later ih =>
      have entered : (context.enterItem (context.pathFor head.name) position).IsBeside name index :=
        fun item isAround => around item (later.items_subset isAround)
      have outer : context.IsBeside name index := fun item isAround =>
        entered item (List.mem_append_left _ isAround)
      have same := agree.isShown_eq outer (.repeatable head template)
        (past _ (everyNode_of_mem member (Node.mem_everyNode_self _)))
      have inside : ConsultsPast name (everyNode template) := fun peer isPeer =>
        past peer (everyNode_of_mem member (List.mem_cons_of_mem _ isPeer))
      have count := agree.itemCount_eq (entered _ (List.mem_append_right _ List.mem_cons_self))
      exact .inItem member (same.symm.trans shown) (count ▸ inRange) (ih inside around)

/-! ### What is reported -/

section Lookups

variable {matcher : Pattern.Matcher}

/-- A validator of a rule looks up nothing but the password. -/
theorem Validators.builtin_custom_congr {function : String} {validator : CustomValidator}
    (found : (builtinWith matcher).custom.find? function = some validator) {before after : Scope}
    (password : after.lookup "password" = before.lookup "password") (value : Json) :
    validator value after = validator value before := by
  have member := Keyed.mem_of_find? found
  simp only [builtinWith, List.mem_cons, Prod.mk.injEq, List.not_mem_nil, or_false] at member
  rcases member with ⟨_, rfl⟩ | ⟨_, rfl⟩ | ⟨_, rfl⟩ | ⟨_, rfl⟩
  · rfl
  · rw [passwordMatch, passwordMatch, Scope.lookupOrNull, password]
    rfl
  · rfl
  · rfl

/-- A validator of a cross-field rule looks up its field and what that depends on. -/
theorem Validators.builtin_cross_congr {rule : String} {validator : CrossValidator}
    (found : (builtinWith matcher).cross.find? rule = some validator) {before after : Scope}
    {field : String} {dependsOn : List String} (own : after.lookup field = before.lookup field)
    (others : ∀ entry ∈ dependsOn, after.lookup entry = before.lookup entry) :
    validator after field dependsOn = validator before field dependsOn := by
  have member := Keyed.mem_of_find? found
  simp only [builtinWith, List.mem_cons, Prod.mk.injEq, List.not_mem_nil, or_false] at member
  cases dependsOn with
  | nil => rcases member with ⟨_, rfl⟩ | ⟨_, rfl⟩ <;> rfl
  | cons entry rest =>
      have other := others entry List.mem_cons_self
      rcases member with ⟨_, rfl⟩ | ⟨_, rfl⟩
      · simp only [isAfter, own, other]
      · simp only [matchesField, Scope.lookupOrNull, own, other]

theorem RuleSet.findings_congr {before after : Scope}
    (password : after.lookup "password" = before.lookup "password") (rules : RuleSet)
    (numeric : Bool) (value : Option Json) :
    rules.findings numeric value after (.builtinWith matcher) =
      rules.findings numeric value before (.builtinWith matcher) := by
  rw [findings, findings]
  cases rules.custom with
  | none => rfl
  | some rule =>
      have same : customFinding (.builtinWith matcher) value after rule =
          customFinding (.builtinWith matcher) value before rule := by
        rw [customFinding, customFinding]
        cases found : (Validators.builtinWith matcher).custom.find? rule.function with
        | none => rfl
        | some validator =>
            dsimp only
            rw [Validators.builtin_custom_congr found password]
      dsimp only
      rw [same]

theorem crossFinding_congr {before after : Scope} {field : String} {rule : CrossRule}
    (own : after.lookup field = before.lookup field)
    (others : ∀ entry ∈ rule.dependsOn, after.lookup entry = before.lookup entry) :
    crossFinding (.builtinWith matcher) field after rule =
      crossFinding (.builtinWith matcher) field before rule := by
  rw [crossFinding, crossFinding]
  cases found : (Validators.builtinWith matcher).cross.find? rule.rule with
  | none => rfl
  | some validator =>
      dsimp only
      rw [Validators.builtin_cross_congr found own others]

/-- A node beside the list reports the same, and so does the list itself. -/
theorem AgreeBeside.errorsOf_eq (agree : AgreeBeside name index first second)
    (notPassword : name ≠ "password") (flows : Keyed FlowState) {visit : Visit}
    (plain : IsPlain visit.path.segments) (around : visit.context.IsBeside name index)
    (past : ∀ entry ∈ visit.node.consulted, firstKey? entry ≠ some name)
    (beside : Beside name index visit.path.segments ∨
      visit.path = .key name ∧ visit.node.isRepeatable = true) :
    Snapshot.errorsOf ⟨first, .builtinWith matcher, flows⟩ visit =
      Snapshot.errorsOf ⟨second, .builtinWith matcher, flows⟩ visit := by
  have elsewhere : firstKey? "password" ≠ some name := by
    have isName : firstKey? "password" = some "password" := by decide +kernel
    rw [isName]
    exact fun same => notPassword (Option.some.inj same).symm
  have password := agree.lookup_eq around elsewhere
  obtain ⟨node, path, context⟩ := visit
  rcases beside with beside | ⟨rfl, isRepeatable⟩
  · have value : path.get? first = path.get? second := agree.values _ beside
    cases node with
    | leaf field =>
        have own := agree.lookup_text_eq around plain beside
        have cross : field.crossValidation.map
              (crossFinding (.builtinWith matcher) path.text (context.scope first)) =
            field.crossValidation.map
              (crossFinding (.builtinWith matcher) path.text (context.scope second)) := by
          refine List.map_congr_left fun rule member => crossFinding_congr own fun entry isEntry => ?_
          refine agree.lookup_eq around (past _ (List.mem_append_left _ ?_))
          exact List.mem_flatMap.mpr ⟨rule, member, isEntry⟩
        simp only [Snapshot.errorsOf, Snapshot.leafFindings, Leaf.findings, value, cross,
          RuleSet.findings_congr password]
    | group head fields => rfl
    | repeatable head template =>
        simp only [Snapshot.errorsOf, FieldPath.itemCount_eq, value]
    | flow flow =>
        simp only [Snapshot.errorsOf, Snapshot.flowErrors, Snapshot.flowFindings, value,
          RuleSet.findings_congr password]
  · cases node with
    | repeatable head template => simp only [Snapshot.errorsOf, agree.count]
    | leaf field => cases isRepeatable
    | group head fields => cases isRepeatable
    | flow flow => cases isRepeatable

end Lookups

/-! ### Errors of the form -/

/-- A text that leads into an item is under that item and under no other. -/
theorem isUnder_item_iff {position other : Nat} {later : List Segment} :
    isUnder (text ⟨.key name :: .index position :: later⟩)
      ((FieldPath.key name).item other).text = true ↔ position = other := by
  have whole : (text ⟨.key name :: .index position :: later⟩).toList =
      name.toList ++ '[' :: (numeral position ++ ']' :: later.flatMap laterSegment) := by
    simp [toList_text, characters, firstSegment, laterSegment, numeral]
  have start : ((FieldPath.key name).item other).text.toList =
      name.toList ++ '[' :: (numeral other ++ [']']) := by
    simp [toList_text, characters, firstSegment, laterSegment, numeral, FieldPath.key, item]
  rw [isUnder, whole, start]
  constructor
  · intro under
    cases stripped : stripStart (name.toList ++ '[' :: (numeral other ++ [']']))
        (name.toList ++ '[' :: (numeral position ++ ']' :: later.flatMap laterSegment)) with
    | none =>
        rw [stripped] at under
        cases under
    | some rest =>
        have same := stripStart_eq_some stripped
        simp only [List.append_assoc, List.cons_append, List.nil_append,
          List.append_cancel_left_eq] at same
        exact (index_append_injective (List.tail_eq_of_cons_eq same)).1
  · rintro rfl
    have split : name.toList ++ '[' :: (numeral position ++ ']' :: later.flatMap laterSegment) =
        (name.toList ++ '[' :: (numeral position ++ [']'])) ++ later.flatMap laterSegment := by
      simp
    rw [split, stripStart_append]
    cases later with
    | nil => rfl
    | cons segment rest => cases segment <;> rfl

variable {fields : List Node}

/-- A node whose key is not under another item of the list is beside the list, or is the list. -/
private theorem beside_of_key (named : WellNamed fields) {head : Repeatable}
    {template : List Node} (isList : .repeatable head template ∈ spread fields) {path : FieldPath}
    {located : Located} (addresses : Addresses fields .root path.segments located)
    {key : String} (owned : key ∈ Engine.keysOf path.text located.node)
    (elsewhere : ∀ other, other ≠ index →
      isUnder key ((FieldPath.key head.name).item other).text = false) :
    located.context.IsBeside head.name index ∧ (Beside head.name index path.segments ∨
      path = .key head.name ∧ located.node.isRepeatable = true) := by
  obtain ⟨tail, _, rfl⟩ := exists_tail_of_mem_keysOf addresses.ne_nil owned
  have ofList := named.findByName isList rfl
  have ofBeside (beside : Beside head.name index path.segments) :
      located.context.IsBeside head.name index ∧ (Beside head.name index path.segments ∨
        path = .key head.name ∧ located.node.isRepeatable = true) :=
    ⟨addresses.isBeside beside fun _ member => (nomatch member), Or.inl beside⟩
  obtain ⟨segments⟩ := path
  cases addresses with
  | @here _ _ outer node found =>
      by_cases same : outer = head.name
      · subst same
        cases ofList.symm.trans found
        exact ⟨fun _ member => (nomatch member), Or.inr ⟨rfl, rfl⟩⟩
      · exact ofBeside (.past same [])
  | @inside _ _ _ outer _ position rest _ found later =>
      by_cases same : outer = head.name
      · subst same
        by_cases isItem : position = index
        · exact ofBeside (isItem ▸ .inItem rest)
        · exact absurd (isUnder_item_iff.mpr rfl) (Bool.eq_false_iff.mp (elsewhere position isItem))
      · exact ofBeside (.past same _)

section Independence

variable (named : WellNamed fields) {head : Repeatable} {template : List Node}
  (isList : .repeatable head template ∈ spread fields) (notPassword : head.name ≠ "password")
  (past : ConsultsPast head.name (everyNode fields)) (flows : Keyed FlowState)
  {matcher : Pattern.Matcher} {key : String}
  (elsewhere : ∀ other, other ≠ index →
    isUnder key ((FieldPath.key head.name).item other).text = false)

include named isList notPassword past elsewhere

private theorem find?_validateAll_of_agree (agree : AgreeBeside head.name index first second)
    {message : String}
    (found : (Snapshot.validateAll ⟨first, .builtinWith matcher, flows⟩ fields).find? key =
      some message) :
    (Snapshot.validateAll ⟨second, .builtinWith matcher, flows⟩ fields).find? key =
      some message := by
  obtain ⟨visit, visited, isError⟩ := List.mem_flatMap.mp (Keyed.mem_of_find?_ofList found)
  have reports := Snapshot.mem_errorsOf_iff.mp isError
  have isVisible := mem_walk_visible_iff.mp visited
  have addresses := (addresses_of_mem_walk named isVisible.mem_walk reports.single).1
  obtain ⟨around, beside⟩ := beside_of_key named isList addresses reports.mem_keysOf elsewhere
  have consults := past visit.node (mem_everyNode_of_mem_walk fields visited)
  have comesToo : visit ∈ walk .visible second .root fields := by
    refine mem_walk_visible_iff.mpr ⟨isVisible.exposed.of_agree agree past around, ?_,
      isVisible.path⟩
    exact (agree.isShown_eq around visit.node consults).symm.trans isVisible.shown
  have same : Snapshot.errorsOf ⟨first, .builtinWith matcher, flows⟩ visit =
      Snapshot.errorsOf ⟨second, .builtinWith matcher, flows⟩ visit :=
    agree.errorsOf_eq notPassword flows (addresses.isPlain named reports.single) around consults
      beside
  have ofFirst :
      (Snapshot.validateAll ⟨first, .builtinWith matcher, flows⟩ fields).find? key = _ :=
    Snapshot.find?_validateAll_of_visited named addresses reports.single visited reports.mem_keysOf
  have ofSecond :
      (Snapshot.validateAll ⟨second, .builtinWith matcher, flows⟩ fields).find? key = _ :=
    Snapshot.find?_validateAll_of_visited named addresses reports.single comesToo reports.mem_keysOf
  rw [ofSecond, ← same, ← ofFirst, found]

/-- Items are validated independently. If no condition and no cross-field rule looks up a path that
starts with the name of a list, values that agree but for the other items of the list have the same
errors under every key that is not in one of those items. -/
theorem Snapshot.validateAll_eq_beside (agree : AgreeBeside head.name index first second) :
    (Snapshot.validateAll ⟨first, .builtinWith matcher, flows⟩ fields).find? key =
      (Snapshot.validateAll ⟨second, .builtinWith matcher, flows⟩ fields).find? key := by
  refine Option.ext fun message => ⟨?_, ?_⟩
  · exact find?_validateAll_of_agree named isList notPassword past flows elsewhere agree
  · exact find?_validateAll_of_agree named isList notPassword past flows elsewhere agree.symm

end Independence

def stayFields : List Node :=
  let day (name : String) (rules : List CrossRule) : Node :=
    .leaf { Leaf.fed name (.dependingOn []) with
      kind := .text, optionsSource := none, crossValidation := rules }
  [.repeatable (.named "stays")
    [day "from" [], day "to" [⟨"isAfter", ["from"], "A stay ends after it starts"⟩]]]

/-- Some stays, the first of which ends before it starts. -/
def staysWith (second : Json) : Snapshot :=
  { values := .object [("stays", .array
      [.object [("from", .string "05-02"), ("to", .string "05-01")], second])]
    validators := .builtin
    flows := [] }

/-- The error of the first stay is there whether the second one is right or wrong. -/
theorem firstStay_apart :
    ((staysWith (.object [("from", .string "06-02"), ("to", .string "06-01")])).validateAll
        stayFields).find? "stays[0].to" = some "A stay ends after it starts" ∧
      ((staysWith .null).validateAll stayFields).find? "stays[0].to" =
        some "A stay ends after it starts" := by
  have named : WellNamed stayFields := by decide +kernel
  have past : ConsultsPast "stays" (everyNode stayFields) := by decide +kernel
  have found : ((staysWith .null).validateAll stayFields).find? "stays[0].to" =
      some "A stay ends after it starts" := by decide +kernel
  have elsewhere (other : Nat) (different : other ≠ 0) :
      isUnder "stays[0].to" ((FieldPath.key "stays").item other).text = false := by
    have isText : "stays[0].to" = text ⟨[.key "stays", .index 0, .key "to"]⟩ := by decide +kernel
    rw [isText, Bool.eq_false_iff]
    exact fun under => different (isUnder_item_iff.mp under).symm
  have agree (second third : Json) :
      AgreeBeside "stays" 0 (staysWith second).values (staysWith third).values :=
    AgreeBeside.of_items [] rfl rfl
  refine ⟨.trans ?_ found, found⟩
  exact Snapshot.validateAll_eq_beside named List.mem_cons_self (by decide) past [] elsewhere
    (agree _ _)

end DeclarativeForm
