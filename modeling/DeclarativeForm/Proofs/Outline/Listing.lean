import DeclarativeForm.Outline.View

/-!
What is shown is what is validated. Collecting the views of a step and validating the step are two
recursions, each over nodes that it picks on its own and with its own care for sections, items and
conditions. A listing of the views names every node that is shown, sections apart, by its path and
ahead of what is inside it; the nodes that validation comes to have the same paths in the same
order.
-/

set_option autoImplicit false

namespace DeclarativeForm

mutual

/-- The paths of a view and of those inside it, in the order in which they are shown. A section has
no path of its own. -/
def View.paths : View → List String
  | .leaf _ view => [view.path]
  | .unsupported place field => [(place.context.pathFor field.name).text]
  | .group _ _ children => View.listing children
  | .repeatable _ view items => view.path :: View.itemListing items
  | .flow _ view => [view.path]

def View.listing : List View → List String
  | [] => []
  | view :: rest => View.paths view ++ View.listing rest

def View.itemListing : List (List View) → List String
  | [] => []
  | item :: rest => View.listing item ++ View.itemListing rest

end

def listedPaths (visits : List Visit) : List String :=
  (visits.filter fun visit => !visit.node.isGroup).map fun visit => visit.path.text

namespace View

@[simp] theorem listing_append (views rest : List View) :
    listing (views ++ rest) = listing views ++ listing rest := by
  induction views with
  | nil => rfl
  | cons view views ih => rw [List.cons_append, listing, ih, listing, List.append_assoc]

theorem itemListing_eq_flatMap (items : List (List View)) :
    itemListing items = items.flatMap listing := by
  induction items with
  | nil => rfl
  | cons item items ih => rw [itemListing, ih, List.flatMap_cons]

@[simp] theorem listing_singleton (view : View) : listing [view] = view.paths := by
  rw [listing, listing, List.append_nil]

end View

@[simp] theorem listedPaths_append (visits rest : List Visit) :
    listedPaths (visits ++ rest) = listedPaths visits ++ listedPaths rest := by
  rw [listedPaths, List.filter_append, List.map_append]
  rfl

theorem listedPaths_flatMap {α : Type} (visits : α → List Visit) (items : List α) :
    listedPaths (items.flatMap visits) = items.flatMap fun item => listedPaths (visits item) := by
  induction items with
  | nil => rfl
  | cons item items ih => rw [List.flatMap_cons, listedPaths_append, ih, List.flatMap_cons]

private theorem listing_ite (shown : Bool) {views : List View} {visits : List Visit}
    (same : View.listing views = listedPaths visits) :
    View.listing (if shown then views else []) = listedPaths (if shown then visits else []) := by
  cases shown with
  | false => rfl
  | true => exact same

namespace Engine

mutual

/-- A node is listed as a walk over what is visible would list it, wherever it stands. How deep it
is nested makes no difference. -/
private theorem listing_nodeView (engine : Engine) (place : ViewPlace) : ∀ node : Node,
    View.listing (engine.nodeView place node) =
      listedPaths (Node.walk .visible engine.values place.context node)
  | .leaf leaf => by
      rw [nodeView, Node.walk]
      refine listing_ite (engine.shows place leaf.showWhen) ?_
      cases leaf.kind.isUnsupported <;> rfl
  | .group head fields => by
      rw [nodeView, Node.walk]
      refine listing_ite (engine.shows place head.showWhen) ?_
      rw [View.listing_singleton]
      exact listing_nodeViews engine place.nested fields
  | .repeatable head template => by
      rw [nodeView, Node.walk]
      refine listing_ite (engine.shows place head.showWhen) ?_
      rw [View.listing_singleton, View.paths, View.itemListing_eq_flatMap, List.flatMap_map]
      refine congrArg (_ :: ·) (.trans ?_ (listedPaths_flatMap _ _).symm)
      refine congrArg (List.range _).flatMap (funext fun index => ?_)
      exact listing_nodeViews engine
        (place.enterItem (place.context.pathFor head.name) index) template
  | .flow flow => by
      rw [nodeView, Node.walk]
      exact listing_ite (engine.shows place flow.showWhen) rfl
termination_by structural node => node

private theorem listing_nodeViews (engine : Engine) (place : ViewPlace) : ∀ nodes : List Node,
    View.listing (engine.nodeViews place nodes) =
      listedPaths (walk .visible engine.values place.context nodes)
  | [] => rfl
  | node :: rest => by
      rw [nodeViews, walk, View.listing_append, listedPaths_append,
        listing_nodeView engine place node, listing_nodeViews engine place rest]
termination_by structural nodes => nodes

end

/-- The views list the paths of the nodes whose errors a validation of the step collects: in the
order of its walk, each as often as the walk comes to it. -/
theorem listing_views_eq_validated (engine : Engine) :
    let visits := walk .visible engine.values .root engine.validatedNodes
    View.listing engine.views = listedPaths visits ∧
      engine.validateStep.1.store.errors =
        (engine.store.mergeErrorsUnder (ownedKeys engine.validatedNodes)
          (Keyed.ofList (visits.flatMap engine.snapshot.errorsOf))).errors := by
  refine ⟨?_, rfl⟩
  rw [validatedNodes_eq]
  exact listing_nodeViews engine .root engine.currentNodes

end Engine

end DeclarativeForm
