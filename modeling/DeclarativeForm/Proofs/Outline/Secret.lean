import DeclarativeForm.Proofs.Fetch.Session
import DeclarativeForm.Proofs.Outline.Blank
import DeclarativeForm.Proofs.Validation.Portion
import DeclarativeForm.Proofs.Visibility.Reading

/-!
What an outline tells of a hidden password. With another value in the place of the password an
outline has the same lines, but for what it shows instead of the password: as many stars as a text
has characters, but any other value as it is. So the outline of a text hides all but its length, and
a password that is no text is told apart from others that look different.
-/

set_option autoImplicit false

namespace DeclarativeForm

open FieldPath Outline

def Engine.holding (engine : Engine) (path : FieldPath) (value : Json) : Engine :=
  { engine with store := { engine.store with values := path.set engine.store.values value } }

theorem Engine.values_holding (engine : Engine) (path : FieldPath) (value : Json) :
    (engine.holding path value).values = path.set engine.values value := rfl

/-- Values of one type, of one length if they are texts. -/
inductive Json.Resembles : Json → Json → Prop
  | null : Resembles .null .null
  | bool (one two : Bool) : Resembles (.bool one) (.bool two)
  | number (one two : Number) : Resembles (.number one) (.number two)
  | string {one two : String} (sameLength : one.length = two.length) :
      Resembles (.string one) (.string two)
  | array (one two : List Json) : Resembles (.array one) (.array two)
  | object (one two : List (String × Json)) : Resembles (.object one) (.object two)

/-- A password field that is not revealed and does not show how strong the password is, and that
holds what is at a place. -/
structure Visit.Hides (engine : Engine) (secret : FieldPath) (visit : Visit) (field : Leaf) :
    Prop where
  node : visit.node = .leaf field
  password : field.kind = .password
  weighsNothing : field.showPasswordStrength = false
  covered : engine.store.isPasswordShown visit.path.text = false
  holds : parse visit.path.text = .ok secret

/-- What is shown of a node depends on a place: a leaf shows what is at its own place, of which the
other may be a part or which may be a part of the other, and a repeatable how many items it has. -/
def Visit.Shows (secret : FieldPath) (visit : Visit) : Prop :=
  match visit.node with
  | .leaf field =>
    field.kind.isUnsupported = false ∧
      ∃ path, parse visit.path.text = .ok path ∧ Overlap secret.segments path.segments
  | .repeatable _ _ => secret.segments <+: visit.path.segments
  | _ => False

def Outline.coveredText : Json → String
  | .string text => String.ofList (List.replicate text.length '*')
  | value => orDash value.displayText

/-! ### Leaves -/

section Leaf

variable {view : LeafView} {old new : Json}

theorem Outline.shownValue_eq_coveredText (view : LeafView) (password : view.field.kind = .password)
    (covered : view.isRevealed = false) {value : Json} (held : view.value = some value) :
    shownValue view = coveredText value := by
  cases value with
  | bool flag => cases flag <;> simp [shownValue, held, password, coveredText] <;> rfl
  | _ => simp [shownValue, held, password, covered, coveredText, LeafKind.isChoice]

theorem Json.Resembles.coveredText_eq_iff (alike : old.Resembles new) :
    coveredText old = coveredText new ↔
      old.text?.isSome = true ∨ orDash old.displayText = orDash new.displayText := by
  cases alike with
  | string sameLength => simp [coveredText, sameLength, Json.text?]
  | _ => simp [coveredText, Json.text?]

theorem Outline.leafLines_differIn (outline : Outline) (depth : Nat)
    (password : view.field.kind = .password) (covered : view.isRevealed = false)
    (held : view.value = some old) (alike : old.Resembles new) :
    DifferIn (coveredText new) (coveredText old) True
      (outline.leafLines depth { view with value := some new }) (outline.leafLines depth view) := by
  have counters : counterLines (depth + 1) { view with value := some new } =
      counterLines (depth + 1) view := by
    simp only [counterLines, held]
    cases view.field.characterCounter with
    | false => rfl
    | true =>
        cases alike with
        | string sameLength => simp only [sameLength]
        | _ => rfl
  have options : outline.optionLines (depth + 1) { view with value := some new } =
      outline.optionLines (depth + 1) view := by
    simp [optionLines, password, LeafKind.isChoice]
  have after : shownValue { view with value := some new } = coveredText new :=
    shownValue_eq_coveredText { view with value := some new } password covered rfl
  rw [leafLines, leafLines, counters, options, after,
    shownValue_eq_coveredText _ password covered held]
  exact (DifferIn.ending _).append_same _

end Leaf

/-! ### Nodes -/

section Lines

variable {outline : Outline} {first second : String}

theorem Outline.viewListLines_append (outline : Outline) (views rest : List View) :
    outline.viewListLines (views ++ rest) =
      outline.viewListLines views ++ outline.viewListLines rest := by
  induction views with
  | nil => rfl
  | cons view views ih =>
      rw [List.cons_append, viewListLines, ih, viewListLines, List.append_assoc]

theorem Outline.viewListLines_singleton (outline : Outline) (view : View) :
    outline.viewListLines [view] = outline.viewLines view := by
  rw [viewListLines, viewListLines, List.append_nil]

private theorem differIn_ite {keeper : Visit} (shown : Bool) {visits : List Visit}
    {after before : List View}
    (differ : shown = true → DifferIn first second (keeper ∈ visits)
      (outline.viewListLines after) (outline.viewListLines before)) :
    DifferIn first second (keeper ∈ if shown then visits else [])
      (outline.viewListLines (if shown then after else []))
      (outline.viewListLines (if shown then before else [])) := by
  cases shown with
  | true => exact differ rfl
  | false => exact (DifferIn.refl []).congr (iff_of_false List.not_mem_nil id)

private theorem mem_ite_of_shown {shown : Bool} (isShown : shown = true) {visit : Visit}
    {visits : List Visit} (member : visit ∈ visits) : visit ∈ if shown then visits else [] := by
  rwa [if_pos isShown]

private theorem itemLines_differIn {occurs : Nat → Prop} {after before : Nat → List View}
    (depth : Nat) (removal : String) (number : Nat) {indices : List Nat}
    (each : ∀ index ∈ indices, DifferIn first second (occurs index)
      (outline.viewListLines (after index)) (outline.viewListLines (before index))) :
    DifferIn first second (∃ index ∈ indices, occurs index)
      (outline.itemLines depth removal number (indices.map after))
      (outline.itemLines depth removal number (indices.map before)) := by
  induction indices generalizing number with
  | nil => exact (DifferIn.refl []).congr (by simp)
  | cons index rest ih =>
      have here := each index List.mem_cons_self
      have later := ih (number + 1) fun other member => each other (List.mem_cons_of_mem _ member)
      rw [List.map_cons, List.map_cons, itemLines, itemLines]
      refine ((here.append later).same_append [_]).congr ?_
      simp only [List.exists_mem_cons_iff]

end Lines

variable {engine : Engine} {secret : FieldPath} {keeper : Visit} {field : Leaf} {old new : Json}

theorem Visit.Hides.shows (hides : keeper.Hides engine secret field) : keeper.Shows secret := by
  rw [Visit.Shows, hides.node]
  exact ⟨by rw [hides.password]; rfl, secret, hides.holds, .refl _⟩

/-- Only a leaf can be the field of the password. -/
private theorem Visit.Hides.mem_cons_iff (hides : keeper.Hides engine secret field) {visit : Visit}
    (bare : ∀ leaf, visit.node ≠ .leaf leaf) (visits : List Visit) :
    keeper ∈ visit :: visits ↔ keeper ∈ visits := by
  refine ⟨fun member => ?_, List.mem_cons_of_mem _⟩
  rcases List.mem_cons.mp member with rfl | later
  · exact absurd hides.node (bare field)
  · exact later

section Nodes

variable (held : secret.get? engine.values = some old)

include held

private theorem Engine.shows_holding (place : ViewPlace) (showWhen : Option ConditionGroup)
    (unread : ¬place.context.Reads engine.values secret showWhen) (new : Json) :
    (engine.holding secret new).shows place showWhen = engine.shows place showWhen :=
  isShown_set held new unread

private theorem Engine.leafView_holding (new : Json) (place : ViewPlace) (leaf : Leaf)
    (elsewhere : ∀ path, parse (place.context.pathFor leaf.name).text = .ok path →
      ¬Overlap secret.segments path.segments) :
    (engine.holding secret new).leafView place leaf = engine.leafView place leaf := by
  have same : (engine.holding secret new).value? (place.context.pathFor leaf.name).text =
      engine.value? (place.context.pathFor leaf.name).text := by
    rw [Engine.value?, Engine.value?]
    cases parsed : parse (place.context.pathFor leaf.name).text with
    | error _ => rfl
    | ok path => exact getAt_set_of_not_overlap held new (elsewhere path parsed)
  simp only [Engine.leafView, same]
  rfl

private theorem Engine.leafView_hides {place : ViewPlace} {path : FieldPath}
    (hides : Visit.Hides engine secret ⟨.leaf field, path, place.context⟩ field)
    (isPath : path = place.context.pathFor field.name) (new : Json) :
    (engine.leafView place field).value = some old ∧
      (engine.holding secret new).leafView place field =
        { engine.leafView place field with value := some new } := by
  subst isPath
  have read (engine : Engine) : engine.value? (place.context.pathFor field.name).text =
      secret.get? engine.values := by
    rw [Engine.value?, hides.holds]
    rfl
  have written : secret.get? (engine.holding secret new).values = some new :=
    getAt_setAt secret.segments engine.values new
  refine ⟨(read engine).trans held, ?_⟩
  simp only [Engine.leafView, read, held, written, Engine.strengthOf, hides.weighsNothing,
    Bool.and_false]
  rfl

variable (hides : keeper.Hides engine secret field) (alike : old.Resembles new) (outline : Outline)

include hides alike

private theorem Engine.leaf_differIn (place : ViewPlace) (leaf : Leaf)
    (unshared : Visit.Shows secret ⟨.leaf leaf, place.context.pathFor leaf.name, place.context⟩ →
      ⟨.leaf leaf, place.context.pathFor leaf.name, place.context⟩ = keeper)
    (supported : leaf.kind.isUnsupported = false) :
    DifferIn (coveredText new) (coveredText old)
      (keeper = ⟨.leaf leaf, place.context.pathFor leaf.name, place.context⟩)
      (outline.leafLines place.depth ((engine.holding secret new).leafView place leaf))
      (outline.leafLines place.depth (engine.leafView place leaf)) := by
  by_cases shows : Visit.Shows secret
    ⟨.leaf leaf, place.context.pathFor leaf.name, place.context⟩
  · obtain rfl := unshared shows
    cases hides.node
    obtain ⟨before, after⟩ := Engine.leafView_hides held hides rfl new
    rw [after]
    exact (leafLines_differIn outline place.depth hides.password hides.covered before alike).congr
      (iff_of_true rfl trivial)
  · have other : keeper ≠ ⟨.leaf leaf, place.context.pathFor leaf.name, place.context⟩ := by
      rintro rfl
      exact shows hides.shows
    rw [Engine.leafView_holding held new place leaf
      fun path parsed overlap => shows ⟨supported, path, parsed, overlap⟩]
    exact (DifferIn.refl _).congr (iff_of_false other id)

end Nodes

mutual

/-- The views of a node have the same lines, but for what stands for the password. -/
private theorem Engine.nodeView_differIn (hides : keeper.Hides engine secret field)
    (held : secret.get? engine.values = some old) (alike : old.Resembles new) (outline : Outline)
    (place : ViewPlace) : ∀ node : Node,
    (∀ visit ∈ Node.walk .everything engine.values place.context node,
      ¬visit.context.Reads engine.values secret visit.node.showWhen) →
    (∀ visit ∈ Node.walk .visible engine.values place.context node,
      visit.Shows secret → visit = keeper) →
    DifferIn (coveredText new) (coveredText old)
      (keeper ∈ Node.walk .visible engine.values place.context node)
      (outline.viewListLines ((engine.holding secret new).nodeView place node))
      (outline.viewListLines (engine.nodeView place node))
  | .leaf leaf, unread, unshared => by
      have shown := Engine.shows_holding held place leaf.showWhen
        (unread _ (List.mem_singleton_self _)) new
      rw [Engine.nodeView, Engine.nodeView, Node.walk, shown]
      refine differIn_ite (engine.shows place leaf.showWhen) fun isShown => ?_
      cases supported : leaf.kind.isUnsupported with
      | true =>
          refine (DifferIn.refl _).congr (iff_of_false (fun member => ?_) id)
          obtain rfl := List.mem_singleton.mp member
          cases hides.node
          rw [hides.password] at supported
          exact Bool.noConfusion supported
      | false =>
          have here := unshared _ (mem_ite_of_shown isShown (List.mem_singleton_self _))
          have lines := Engine.leaf_differIn held hides alike outline place leaf here supported
          rw [List.mem_singleton]
          exact lines.append_same []
  | .group head fields, unread, unshared => by
      have shown := Engine.shows_holding held place head.showWhen (unread _ List.mem_cons_self) new
      rw [Engine.nodeView, Engine.nodeView, Node.walk, shown]
      refine differIn_ite (engine.shows place head.showWhen) fun isShown => ?_
      have inner := Engine.nodeViews_differIn hides held alike outline place.nested fields
        (fun visit member => unread visit (List.mem_cons_of_mem _ member))
        (fun visit member =>
          unshared visit (mem_ite_of_shown isShown (List.mem_cons_of_mem _ member)))
      rw [hides.mem_cons_iff (fun _ => Node.noConfusion), viewListLines_singleton,
        viewListLines_singleton, viewLines, viewLines]
      exact inner.same_append _
  | .repeatable head template, unread, unshared => by
      have shown := Engine.shows_holding held place head.showWhen (unread _ List.mem_cons_self) new
      rw [Engine.nodeView, Engine.nodeView, Node.walk, shown]
      refine differIn_ite (engine.shows place head.showWhen) fun isShown => ?_
      have outside : ¬secret.segments <+: (place.context.pathFor head.name).segments := by
        intro inside
        obtain rfl := unshared _ (mem_ite_of_shown isShown List.mem_cons_self) inside
        exact nomatch hides.node
      have counted := itemCount_set_of_not_prefix held new outside
      have items (removal : String) := itemLines_differIn (place.depth + 1) removal 1
        fun index isIndex => Engine.nodeViews_differIn hides held alike outline
          (place.enterItem (place.context.pathFor head.name) index) template
          (fun visit member => unread visit
            (List.mem_cons_of_mem _ (List.mem_flatMap.mpr ⟨index, isIndex, member⟩)))
          (fun visit member => unshared visit (mem_ite_of_shown isShown
            (List.mem_cons_of_mem _ (List.mem_flatMap.mpr ⟨index, isIndex, member⟩))))
      simp only [Engine.values_holding, counted]
      rw [hides.mem_cons_iff (fun _ => Node.noConfusion), viewListLines_singleton,
        viewListLines_singleton, viewLines, viewLines, List.mem_flatMap]
      exact (((items _).append_same _).append_same _).same_append [_]
  | .flow flow, unread, _ => by
      have shown := Engine.shows_holding held place flow.showWhen
        (unread _ (List.mem_singleton_self _)) new
      rw [Engine.nodeView, Engine.nodeView, Node.walk, shown]
      refine differIn_ite (engine.shows place flow.showWhen) fun _ => ?_
      rw [hides.mem_cons_iff (fun _ => Node.noConfusion)]
      exact (DifferIn.refl _).congr (iff_of_false List.not_mem_nil id)
termination_by structural node => node

private theorem Engine.nodeViews_differIn (hides : keeper.Hides engine secret field)
    (held : secret.get? engine.values = some old) (alike : old.Resembles new) (outline : Outline)
    (place : ViewPlace) : ∀ nodes : List Node,
    (∀ visit ∈ walk .everything engine.values place.context nodes,
      ¬visit.context.Reads engine.values secret visit.node.showWhen) →
    (∀ visit ∈ walk .visible engine.values place.context nodes,
      visit.Shows secret → visit = keeper) →
    DifferIn (coveredText new) (coveredText old)
      (keeper ∈ walk .visible engine.values place.context nodes)
      (outline.viewListLines ((engine.holding secret new).nodeViews place nodes))
      (outline.viewListLines (engine.nodeViews place nodes))
  | [], _, _ => (DifferIn.refl []).congr (iff_of_false List.not_mem_nil id)
  | node :: rest, unread, unshared => by
      rw [walk] at unread unshared
      have here := Engine.nodeView_differIn hides held alike outline place node
        (fun visit member => unread visit (List.mem_append_left _ member))
        (fun visit member => unshared visit (List.mem_append_left _ member))
      have later := Engine.nodeViews_differIn hides held alike outline place rest
        (fun visit member => unread visit (List.mem_append_right _ member))
        (fun visit member => unshared visit (List.mem_append_right _ member))
      rw [Engine.nodeViews, Engine.nodeViews, viewListLines_append, viewListLines_append]
      exact (here.append later).congr (by rw [walk, List.mem_append])
termination_by structural nodes => nodes

end

/-! ### Outlines -/

/-- With good names nothing that is shown depends on a password but its own field. -/
theorem Visit.Hides.eq_of_shows (named : WellNamed engine.form.fields)
    (hides : keeper.Hides engine secret field)
    (inForm : keeper ∈ walk .everything engine.values .root engine.form.fields) {visit : Visit}
    (member : visit ∈ walk .visible engine.values .root engine.currentNodes)
    (shows : visit.Shows secret) : visit = keeper := by
  obtain ⟨_, place, around⟩ := keeper
  obtain rfl := hides.node
  have plain := isPlain_of_mem_walk named inForm rfl
  obtain rfl := eq_of_parse_text plain.isWritable hides.holds
  have keeps := (addresses_of_mem_walk named inForm rfl).1
  have bare (head : Repeatable) (template : List Node) :
      Node.leaf field ≠ .repeatable head template := Node.noConfusion
  have inWhole := engine.isPortion_currentNodes.walk_subset _ _
    ((walk_sublist engine.values .root engine.currentNodes).subset member)
  obtain ⟨node, path, context⟩ := visit
  cases node with
  | leaf leaf =>
      have addresses := (addresses_of_mem_walk named inWhole rfl).1
      obtain ⟨_, read, parsed, overlap⟩ := shows
      obtain rfl := eq_of_parse_text (isPlain_of_mem_walk named inWhole rfl).isWritable parsed
      rcases keeps.compare_leaves addresses with apart | ⟨same, rfl, rfl⟩
      · rcases overlap with below | above
        · exact absurd below apart.not_prefix
        · exact absurd above apart.symm.not_prefix
      · have equal : secret = read := congrArg FieldPath.mk same
        rw [equal]
  | repeatable head template =>
      have addresses := (addresses_of_mem_walk named inWhole rfl).1
      rcases keeps.compare bare addresses with apart | ⟨_, equal⟩ | ⟨_, _, _, back, _, longer⟩
      · exact absurd shows apart.not_prefix
      · exact absurd (congrArg Located.node equal).symm (bare head template)
      · have length := shows.length_le
        rw [longer, List.length_append, List.length_cons] at length
        omega
  | group head fields => exact absurd shows id
  | flow flow => exact absurd shows id

/-- An outline tells a hidden password from another one of its type, of its length if it is a text,
exactly if the field is shown, the password is no text and the two look different. No condition
reads the password, and no other node that is shown shows it. -/
theorem Outline.render_holding_iff (outline : Outline)
    (hides : keeper.Hides engine secret field)
    (unread : ∀ visit ∈ walk .everything engine.values .root engine.currentNodes,
      ¬visit.context.Reads engine.values secret visit.node.showWhen)
    (unshared : ∀ visit ∈ walk .visible engine.values .root engine.currentNodes,
      visit.Shows secret → visit = keeper)
    (held : secret.get? engine.values = some old) (alike : old.Resembles new) :
    outline.render (engine.holding secret new) = outline.render engine ↔
      keeper ∉ walk .visible engine.values .root engine.currentNodes ∨
        old.text?.isSome = true ∨ orDash old.displayText = orDash new.displayText := by
  have views := Engine.nodeViews_differIn hides held alike outline .root engine.currentNodes unread
    unshared
  have lines : DifferIn (coveredText new) (coveredText old)
      (keeper ∈ walk .visible engine.values .root engine.currentNodes)
      (outline.lines (engine.holding secret new)) (outline.lines engine) :=
    (views.same_append _).append_same _
  calc outline.render (engine.holding secret new) = outline.render engine
      ↔ (keeper ∈ walk .visible engine.values .root engine.currentNodes →
          coveredText new = coveredText old) := lines.joined_eq_iff "\n"
    _ ↔ _ := by rw [eq_comm, alike.coveredText_eq_iff, imp_iff_not_or]

def pinField : Leaf :=
  { Leaf.fed "pin" (.dependingOn []) with kind := .password, optionsSource := none }

def pinForm (pin : Json) : Engine :=
  .mount (.ofFields [.leaf pinField] (.object [("pin", pin)]))

/-- One PIN of four letters looks like the other; PINs that are numbers are told apart. -/
theorem pinForm_hidesLetters_showsDigits :
    Outline.standard.render ((pinForm (.string "abcd")).holding (.key "pin") (.string "wxyz")) =
        Outline.standard.render (pinForm (.string "abcd")) ∧
      Outline.standard.render ((pinForm (.ofNat 1234)).holding (.key "pin") (.ofNat 5678)) ≠
        Outline.standard.render (pinForm (.ofNat 1234)) := by
  let keeper : Visit := ⟨.leaf pinField, .key "pin", .root⟩
  have hides (pin : Json) : keeper.Hides (pinForm pin) (.key "pin") pinField :=
    ⟨rfl, rfl, rfl, rfl, by decide +kernel⟩
  have visits (pin : Json) (reach : Reach) :
      walk reach (pinForm pin).values .root (pinForm pin).currentNodes = [keeper] := by
    cases reach <;> rfl
  have unread (pin : Json) :
      ∀ visit ∈ walk .everything (pinForm pin).values .root (pinForm pin).currentNodes,
        ¬visit.context.Reads (pinForm pin).values (.key "pin") visit.node.showWhen := by
    rintro visit member ⟨group, _, _, conditions, _⟩
    rw [visits, List.mem_singleton] at member
    subst member
    cases conditions
  have unshared (pin : Json) :
      ∀ visit ∈ walk .visible (pinForm pin).values .root (pinForm pin).currentNodes,
        visit.Shows (.key "pin") → visit = keeper := by
    have named : WellNamed [.leaf pinField] := by decide +kernel
    have inForm := visits pin .everything ▸ List.mem_singleton_self keeper
    exact fun visit => (hides pin).eq_of_shows named inForm
  have held (pin : Json) : (FieldPath.key "pin").get? (pinForm pin).values = some pin := rfl
  have sameLength : Json.Resembles (.string "abcd") (.string "wxyz") := .string rfl
  have letters := Outline.render_holding_iff .standard (hides (.string "abcd")) (unread _)
    (unshared _) (held _) sameLength
  have digits := Outline.render_holding_iff .standard (hides (.ofNat 1234)) (unread _)
    (unshared _) (held _) (.number (.integer 1234) (.integer 5678))
  refine ⟨letters.mpr (.inr (.inl rfl)), fun same => ?_⟩
  rcases digits.mp same with hidden | isText | looks
  · exact hidden (visits _ .visible ▸ List.mem_singleton_self keeper)
  · exact Bool.noConfusion isText
  · exact absurd looks (by decide +kernel)

end DeclarativeForm
