import DeclarativeForm.Outline.View
import DeclarativeForm.Proofs.Sync.Repeat
import DeclarativeForm.Proofs.Validation.Field
import DeclarativeForm.Proofs.Validation.Portion

/-!
What is offered is what is permitted. The views recompute bounds and locks from the nodes they came
to; an operation finds the node again by the text of a path and checks for itself. Both find the
same node: a view is of a visit, what is visited is addressed by its path, and the text of a path
whose items are there reads back as the path.
-/

set_option autoImplicit false

namespace DeclarativeForm

open FieldPath

mutual

def View.parts : View → List View
  | .leaf place view => [.leaf place view]
  | .unsupported place field => [.unsupported place field]
  | .group place head children => .group place head children :: View.partsOf children
  | .repeatable place view items => .repeatable place view items :: View.itemParts items
  | .flow place view => [.flow place view]

def View.partsOf : List View → List View
  | [] => []
  | view :: rest => View.parts view ++ View.partsOf rest

def View.itemParts : List (List View) → List View
  | [] => []
  | item :: rest => View.partsOf item ++ View.itemParts rest

end

namespace View

def repeatable? : View → Option RepeatableView
  | .repeatable _ view _ => some view
  | _ => none

def flow? : View → Option FlowView
  | .flow _ view => some view
  | _ => none

def repeatables (views : List View) : List RepeatableView := (partsOf views).filterMap repeatable?

def flows (views : List View) : List FlowView := (partsOf views).filterMap flow?

theorem partsOf_append (views rest : List View) :
    partsOf (views ++ rest) = partsOf views ++ partsOf rest := by
  induction views with
  | nil => rfl
  | cons view views ih => rw [List.cons_append, partsOf, ih, partsOf, List.append_assoc]

theorem partsOf_singleton (view : View) : partsOf [view] = view.parts := by
  rw [partsOf, partsOf, List.append_nil]

theorem itemParts_eq_flatMap (items : List (List View)) : itemParts items = items.flatMap partsOf := by
  induction items with
  | nil => rfl
  | cons item items ih => rw [itemParts, ih, List.flatMap_cons]

end View

namespace Engine

/-- The views of a node that a walk has come to. -/
inductive Pictures (engine : Engine) : Visit → View → Prop
  | leaf (place : ViewPlace) (leaf : Leaf) :
      Pictures engine ⟨.leaf leaf, place.context.pathFor leaf.name, place.context⟩
        (.leaf place (engine.leafView place leaf))
  | unsupported (place : ViewPlace) (leaf : Leaf) :
      Pictures engine ⟨.leaf leaf, place.context.pathFor leaf.name, place.context⟩
        (.unsupported place leaf)
  | group (place : ViewPlace) (head : Section) (fields : List Node) (children : List View) :
      Pictures engine ⟨.group head fields, place.context.parent, place.context⟩
        (.group place head children)
  | repeatable (place : ViewPlace) (head : Repeatable) (template : List Node)
      (items : List (List View)) :
      Pictures engine ⟨.repeatable head template, place.context.pathFor head.name, place.context⟩
        (.repeatable place
          (engine.repeatableView (place.context.pathFor head.name) head
            (itemCount (place.context.pathFor head.name) engine.values)) items)
  | flow (place : ViewPlace) (flow : Flow) :
      Pictures engine ⟨.flow flow, place.context.pathFor flow.name, place.context⟩
        (.flow place (engine.flowView place flow))

variable {engine : Engine}

/-! ### Views and visits -/

mutual

private theorem exists_visit_of_mem_nodeView {view : View} : ∀ (node : Node) (place : ViewPlace),
    view ∈ View.partsOf (engine.nodeView place node) →
      ∃ visit ∈ Node.walk .visible engine.values place.context node, engine.Pictures visit view
  | .leaf leaf, place, member => by
      rw [nodeView] at member
      rw [Node.walk, Reach.admits]
      by_cases shown : engine.shows place leaf.showWhen = true
      · rw [if_pos shown] at member
        rw [shows] at shown
        rw [if_pos shown]
        refine ⟨_, List.mem_singleton_self _, ?_⟩
        by_cases unknown : leaf.kind.isUnsupported = true
        · rw [if_pos unknown, View.partsOf_singleton] at member
          cases List.mem_singleton.mp member
          exact .unsupported place leaf
        · rw [if_neg unknown, View.partsOf_singleton] at member
          cases List.mem_singleton.mp member
          exact .leaf place leaf
      · rw [if_neg shown] at member
        nomatch member
  | .group head fields, place, member => by
      rw [nodeView] at member
      rw [Node.walk, Reach.admits]
      by_cases shown : engine.shows place head.showWhen = true
      · rw [if_pos shown, View.partsOf_singleton] at member
        rw [shows] at shown
        rw [if_pos shown]
        rcases List.mem_cons.mp member with rfl | inside
        · exact ⟨_, List.mem_cons_self, .group place head fields _⟩
        · obtain ⟨visit, visited, pictures⟩ :=
            exists_visit_of_mem_nodeViews fields place.nested inside
          exact ⟨visit, List.mem_cons_of_mem _ visited, pictures⟩
      · rw [if_neg shown] at member
        nomatch member
  | .repeatable head template, place, member => by
      rw [nodeView] at member
      rw [Node.walk, Reach.admits]
      by_cases shown : engine.shows place head.showWhen = true
      · rw [if_pos shown, View.partsOf_singleton] at member
        rw [shows] at shown
        rw [if_pos shown]
        rcases List.mem_cons.mp member with rfl | inside
        · exact ⟨_, List.mem_cons_self, .repeatable place head template _⟩
        · rw [View.itemParts_eq_flatMap, List.flatMap_map] at inside
          obtain ⟨index, inRange, ofItem⟩ := List.mem_flatMap.mp inside
          obtain ⟨visit, visited, pictures⟩ := exists_visit_of_mem_nodeViews template _ ofItem
          exact ⟨visit, List.mem_cons_of_mem _ (List.mem_flatMap.mpr ⟨index, inRange, visited⟩),
            pictures⟩
      · rw [if_neg shown] at member
        nomatch member
  | .flow flow, place, member => by
      rw [nodeView] at member
      rw [Node.walk, Reach.admits]
      by_cases shown : engine.shows place flow.showWhen = true
      · rw [if_pos shown, View.partsOf_singleton] at member
        rw [shows] at shown
        rw [if_pos shown]
        cases List.mem_singleton.mp member
        exact ⟨_, List.mem_singleton_self _, .flow place flow⟩
      · rw [if_neg shown] at member
        nomatch member

private theorem exists_visit_of_mem_nodeViews {view : View} :
    ∀ (nodes : List Node) (place : ViewPlace),
      view ∈ View.partsOf (engine.nodeViews place nodes) →
        ∃ visit ∈ walk .visible engine.values place.context nodes, engine.Pictures visit view
  | [], _, member => nomatch member
  | node :: rest, place, member => by
      rw [nodeViews, View.partsOf_append] at member
      rw [walk]
      rcases List.mem_append.mp member with here | later
      · obtain ⟨visit, visited, pictures⟩ := exists_visit_of_mem_nodeView node place here
        exact ⟨visit, List.mem_append_left _ visited, pictures⟩
      · obtain ⟨visit, visited, pictures⟩ := exists_visit_of_mem_nodeViews rest place later
        exact ⟨visit, List.mem_append_right _ visited, pictures⟩

end

end Engine

/-! ### Finding the node again -/

namespace Engine

variable {engine : Engine}

/-- The text of the path of a visit leads back to the node that was visited. -/
theorem locate_of_mem_walk (named : WellNamed engine.form.fields) {visit : Visit}
    (visited : visit ∈ walk .everything engine.values .root engine.form.fields)
    (single : visit.node.isGroup = false) (readable : visit.path.InRange) :
    engine.locate visit.path.text = .ok (visit.path, ⟨visit.node, visit.context⟩) := by
  have addresses := (addresses_of_mem_walk named visited single).1
  have parsed := (parse_text_eq_ok_iff (addresses.isPlain named single)).mpr readable
  exact locate_of_addresses parsed addresses

theorem exists_visit_of_mem_views {view : View} (member : view ∈ View.partsOf engine.views) :
    ∃ visit ∈ walk .everything engine.values .root engine.form.fields,
      engine.Pictures visit view := by
  obtain ⟨visit, visited, pictures⟩ := exists_visit_of_mem_nodeViews _ _ member
  have ofStep := (walk_sublist engine.values .root engine.currentNodes).subset visited
  exact ⟨visit, engine.isPortion_currentNodes.walk_subset _ _ ofStep, pictures⟩

/-! ### Bounds and locks -/

variable {text : String} {path : FieldPath} {place : Context}

theorem addItem_permitted_iff {head : Repeatable} {template : List Node} (count : Nat)
    (found : engine.locate text = .ok (path, ⟨.repeatable head template, place⟩))
    (counted : count = itemCount path engine.values) :
    (engine.repeatableView path head count).canAdd = true ↔
      ∃ index, (engine.addItem text).2 = .ok index := by
  subst counted
  simp only [repeatableView, addItem, found]
  cases head.maxItemCount with
  | none => simp
  | some most =>
      by_cases full : most ≤ itemCount path engine.values
      · have none : ¬itemCount path engine.values < most := Nat.not_lt.mpr full
        simp [Option.filter, full, none]
      · have room : itemCount path engine.values < most := Nat.lt_of_not_le full
        simp [Option.filter, full, room]

theorem removeItem_permitted_iff {head : Repeatable} {template : List Node}
    (found : engine.locate text = .ok (path, ⟨.repeatable head template, place⟩)) {index : Nat}
    (inRange : index < itemCount path engine.values) :
    (engine.repeatableView path head (itemCount path engine.values)).canRemove = true ↔
      (engine.removeItem text index).2 = .ok () := by
  have isThere : ¬itemCount path engine.values ≤ index := Nat.not_le.mpr inRange
  simp only [repeatableView, removeItem, found, if_neg isThere]
  cases head.minItems with
  | none => simpa [Option.filter] using Nat.zero_lt_of_lt inRange
  | some least =>
      by_cases few : itemCount path engine.values ≤ least
      · have none : ¬least < itemCount path engine.values := Nat.not_lt.mpr few
        simp [Option.filter, few, none]
      · have spare : least < itemCount path engine.values := Nat.lt_of_not_le few
        simp [Option.filter, few, spare]

theorem selectFlowStep_permitted_iff {flow : Flow} {state : FlowState} (id value : String)
    (found : engine.locate text = .ok (path, ⟨.flow flow, place⟩))
    (present : engine.store.flow? path.text = some state) :
    engine.isFlowStepEnabled text id = true ↔
      ∃ change, (engine.selectFlowStep text id value).2 = .ok (.applied change) := by
  have synced : engine.syncFlow ⟨path, flow, place⟩ = engine := by
    simp only [syncFlow, present]
  simp only [isFlowStepEnabled, locateFlow?, selectFlowStep, found, synced, present, Flow.select]
  cases flow.stepIndex id with
  | none => simp
  | some index => by_cases opened : flow.isStepEnabled state index = true <;> simp [opened]

end Engine

namespace Session

/-- The views offer what is permitted. An item may be added where adding one succeeds; items may be
removed where there is one and each of them may go; a step is open where a choice of any value is
taken. So it is in every state, for the views of items of items too, where their paths can be
read. -/
theorem Reachable.offers_iff_permitted {mounting : Engine.Mounting} {session : Session}
    (reachable : Reachable mounting session) (named : WellNamed mounting.form.fields)
    (readable : ∀ visit ∈ walk .everything session.engine.values .root mounting.form.fields,
      visit.path.InRange) :
    (∀ view ∈ View.repeatables session.engine.views,
      (view.canAdd = true ↔ ∃ index, (session.engine.addItem view.path).2 = .ok index) ∧
      (view.canRemove = true ↔ 0 < view.count ∧
        ∀ index < view.count, (session.engine.removeItem view.path index).2 = .ok ())) ∧
    ∀ view ∈ View.flows session.engine.views, ∀ step ∈ view.steps, ∀ value,
      step.enabled = true ↔ ∃ change,
        (session.engine.selectFlowStep view.path step.step.id value).2 =
          .ok (.applied change) := by
  have started := reachable.started named
  rw [← reachable.form] at named readable
  constructor
  · intro view member
    obtain ⟨part, isPart, isView⟩ := List.mem_filterMap.mp member
    obtain ⟨visit, visited, pictures⟩ := Engine.exists_visit_of_mem_views isPart
    cases pictures with
    | repeatable place head template items =>
        cases isView
        have found := Engine.locate_of_mem_walk named visited rfl (readable _ visited)
        refine ⟨Engine.addItem_permitted_iff _ found rfl, fun offered => ⟨?_, ?_⟩, ?_⟩
        · exact Nat.zero_lt_of_lt (of_decide_eq_true offered)
        · intro index inRange
          exact (Engine.removeItem_permitted_iff found inRange).mp offered
        · rintro ⟨some, removable⟩
          exact (Engine.removeItem_permitted_iff found some).mpr (removable 0 some)
    | _ => cases isView
  · intro view member step isStep value
    obtain ⟨part, isPart, isView⟩ := List.mem_filterMap.mp member
    obtain ⟨visit, visited, pictures⟩ := Engine.exists_visit_of_mem_views isPart
    cases pictures with
    | flow place flow =>
        cases isView
        have found := Engine.locate_of_mem_walk named visited rfl (readable _ visited)
        have isPlace : ⟨_, flow, _⟩ ∈ flowPlaces session.engine.form.fields session.engine.values :=
          List.mem_filterMap.mpr ⟨_, visited, rfl⟩
        obtain ⟨state, present⟩ := Option.isSome_iff_exists.mp (started _ isPlace)
        obtain ⟨declared, _, rfl⟩ := List.mem_map.mp isStep
        exact Engine.selectFlowStep_permitted_iff declared.id value found present
    | _ => cases isView

/-- An order may be added and either may be taken out, but no city can be chosen for the second one
before its country is. -/
theorem sentOrders_offers :
    (∃ index, ((mount sentOrders).engine.addItem "sent").2 = .ok index) ∧
      (∀ index < 2, ((mount sentOrders).engine.removeItem "sent" index).2 = .ok ()) ∧
      ∀ value change, ((mount sentOrders).engine.selectFlowStep "sent[1].place" "city" value).2 ≠
        .ok (.applied change) := by
  have named : WellNamed sentOrders.form.fields := by decide +kernel
  have readable : ∀ visit ∈ walk .everything (mount sentOrders).engine.values .root
      sentOrders.form.fields, visit.path.InRange := by decide +kernel
  have orders : (View.repeatables (mount sentOrders).engine.views).any (fun view =>
      view.path == "sent" && view.count == 2 && view.canAdd && view.canRemove) = true := by
    decide +kernel
  have places : (View.flows (mount sentOrders).engine.views).any (fun view =>
      view.path == "sent[1].place" &&
        view.steps.any fun step => step.step.id == "city" && !step.enabled) = true := by
    decide +kernel
  have reachable : Reachable sentOrders (mount sentOrders) := .mounted
  generalize mount sentOrders = session at *
  obtain ⟨ofRepeatables, ofFlows⟩ := Reachable.offers_iff_permitted reachable named readable
  obtain ⟨offered, isOffered, isOrders⟩ := List.any_eq_true.mp orders
  obtain ⟨locked, isLocked, isPlace⟩ := List.any_eq_true.mp places
  simp only [Bool.and_eq_true, beq_iff_eq, List.any_eq_true, Bool.not_eq_true'] at isOrders isPlace
  obtain ⟨⟨⟨path, two⟩, canAdd⟩, canRemove⟩ := isOrders
  obtain ⟨lockedPath, step, isStep, isCity, closed⟩ := isPlace
  obtain ⟨adding, removing⟩ := ofRepeatables offered isOffered
  rw [path] at adding removing
  rw [two] at removing
  refine ⟨adding.mp canAdd, (removing.mp canRemove).2, ?_⟩
  intro value change taken
  have enabled := ofFlows locked isLocked step isStep value
  rw [lockedPath, isCity, closed] at enabled
  exact Bool.false_ne_true (enabled.mpr ⟨change, taken⟩)

end Session

end DeclarativeForm
