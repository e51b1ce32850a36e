import DeclarativeForm.Engine.Wizard
import DeclarativeForm.Proofs.Sync.Settled

/-!
Notices of conditions, walks and checks. What they report are faulty parts of a form, never that the
passes over its options were given up.
-/

set_option autoImplicit false

namespace DeclarativeForm

def NoneUnsettled (notices : List Notice) : Prop := notices.any Notice.isUnsettled = false

namespace NoneUnsettled

theorem nil : NoneUnsettled [] := rfl

theorem single {notice : Notice} (other : notice.isUnsettled = false) : NoneUnsettled [notice] := by
  rw [NoneUnsettled, List.any_cons, other]
  rfl

theorem append {first second : List Notice} (one : NoneUnsettled first)
    (two : NoneUnsettled second) : NoneUnsettled (first ++ second) := by
  rw [NoneUnsettled, List.any_append, one, two]
  rfl

theorem flatMap {α : Type} {items : List α} {ofItem : α → List Notice}
    (each : ∀ item ∈ items, NoneUnsettled (ofItem item)) :
    NoneUnsettled (items.flatMap ofItem) := by
  induction items with
  | nil => exact nil
  | cons first rest ih =>
      rw [List.flatMap_cons]
      exact append (each first List.mem_cons_self)
        (ih fun item member => each item (List.mem_cons_of_mem _ member))

theorem ite {condition : Bool} {first second : List Notice} (one : NoneUnsettled first)
    (two : NoneUnsettled second) : NoneUnsettled (if condition then first else second) := by
  cases condition with
  | true => exact one
  | false => exact two

end NoneUnsettled

/-! ### Conditions and walks -/

theorem Condition.notices_noneUnsettled (condition : Condition) :
    NoneUnsettled condition.notices := by
  unfold notices
  split <;> rfl

theorem shownNotices_noneUnsettled (showWhen : Option ConditionGroup) (scope : Scope) :
    NoneUnsettled (shownNotices showWhen scope) := by
  cases showWhen with
  | none => exact .nil
  | some group => exact .flatMap fun condition _ => condition.notices_noneUnsettled

theorem Reach.notices_noneUnsettled (reach : Reach) (values : Json) (context : Context)
    (showWhen : Option ConditionGroup) :
    NoneUnsettled (reach.notices values context showWhen) := by
  cases reach with
  | everything => exact .nil
  | visible => exact shownNotices_noneUnsettled showWhen _

mutual

private theorem Node.walkNotices_noneUnsettled {reach : Reach} {values : Json}
    {ofVisit : Visit → List Notice} (each : ∀ visit, NoneUnsettled (ofVisit visit))
    (context : Context) :
    ∀ node : Node, NoneUnsettled (Node.walkNotices reach values ofVisit context node)
  | .leaf field => by
      rw [Node.walkNotices]
      exact .append (reach.notices_noneUnsettled _ _ _) (.ite (each _) .nil)
  | .group head fields => by
      have inside := @walkNotices_noneUnsettled reach values ofVisit each context fields
      rw [Node.walkNotices]
      exact .append (reach.notices_noneUnsettled _ _ _) (.ite (.append (each _) inside) .nil)
  | .repeatable head template => by
      have inside (index : Nat) := @walkNotices_noneUnsettled reach values ofVisit each
        (context.enterItem (context.pathFor head.name) index) template
      rw [Node.walkNotices]
      exact .append (reach.notices_noneUnsettled _ _ _)
        (.ite (.append (each _) (.flatMap fun index _ => inside index)) .nil)
  | .flow field => by
      rw [Node.walkNotices]
      exact .append (reach.notices_noneUnsettled _ _ _) (.ite (each _) .nil)

/-- A walk adds to the notices of its visits those of the conditions on the way. -/
theorem walkNotices_noneUnsettled {reach : Reach} {values : Json}
    {ofVisit : Visit → List Notice} (each : ∀ visit, NoneUnsettled (ofVisit visit))
    (context : Context) :
    ∀ nodes : List Node, NoneUnsettled (walkNotices reach values ofVisit context nodes)
  | [] => .nil
  | node :: rest =>
      .append (Node.walkNotices_noneUnsettled each context node)
        (walkNotices_noneUnsettled each context rest)

end

theorem optionBindingNotices_noneUnsettled (fields : List Node) (values : Json) :
    NoneUnsettled (optionBindingNotices fields values) :=
  walkNotices_noneUnsettled (fun _ => .nil) .root fields

/-! ### Checks -/

namespace Finding

def IsOfRule : Finding → Prop
  | inapplicable notice => notice.isUnsettled = false
  | _ => True

theorem notices_noneUnsettled {findings : List Finding}
    (each : ∀ finding ∈ findings, finding.IsOfRule) : NoneUnsettled (notices findings) := by
  induction findings with
  | nil => exact .nil
  | cons first rest ih =>
      have later := ih fun finding member => each finding (List.mem_cons_of_mem _ member)
      have here := each first List.mem_cons_self
      cases first with
      | passes => exact later
      | fails message => exact .nil
      | inapplicable notice => exact .append (.single here) later

theorem ofViolation_isOfRule (violated : Bool) (message : String) :
    (ofViolation violated message).IsOfRule := by
  cases violated <;> trivial

end Finding

theorem findingOf_isOfRule {find : Rule → Finding} (each : ∀ rule, (find rule).IsOfRule)
    (rule : Option Rule) : (findingOf rule find).IsOfRule := by
  cases rule with
  | none => trivial
  | some rule => exact each rule

theorem limitFinding_isOfRule (name fallback : String) (violates : Binary64 → Bool)
    (rule : Rule) : (limitFinding name fallback violates rule).IsOfRule := by
  unfold limitFinding
  split
  · exact Finding.ofViolation_isOfRule _ _
  · rfl

theorem patternFinding_isOfRule (matcher : Pattern.Matcher) (text : String) (rule : Rule) :
    (patternFinding matcher text rule).IsOfRule := by
  unfold patternFinding
  split
  · split <;> trivial
  · rfl

theorem customFinding_isOfRule (validators : Validators) (value : Option Json) (scope : Scope)
    (rule : CustomRule) : (customFinding validators value scope rule).IsOfRule := by
  unfold customFinding
  split
  · rfl
  · split <;> trivial

theorem crossFinding_isOfRule (validators : Validators) (path : String) (scope : Scope)
    (rule : CrossRule) : (crossFinding validators path scope rule).IsOfRule := by
  unfold crossFinding
  split
  · rfl
  · exact Finding.ofViolation_isOfRule _ _

theorem RuleSet.findings_isOfRule (rules : RuleSet) (numeric : Bool) (value : Option Json)
    (scope : Scope) (validators : Validators) :
    ∀ finding ∈ rules.findings numeric value scope validators, finding.IsOfRule := by
  intro finding member
  rcases List.mem_cons.mp member with rfl | later
  · exact findingOf_isOfRule (fun _ => Finding.ofViolation_isOfRule _ _) _
  rcases List.mem_append.mp later with measured | ofCustom
  · rcases List.mem_append.mp measured with ofText | ofRange
    · unfold textFindings at ofText
      split at ofText
      · split at ofText
        · cases ofText
        · simp only [List.mem_cons, List.not_mem_nil, or_false] at ofText
          rcases ofText with rfl | rfl | rfl
          · exact findingOf_isOfRule (limitFinding_isOfRule _ _ _) _
          · exact findingOf_isOfRule (limitFinding_isOfRule _ _ _) _
          · exact findingOf_isOfRule (patternFinding_isOfRule _ _) _
      · cases ofText
    · unfold rangeFindings at ofRange
      split at ofRange
      · simp only [List.mem_cons, List.not_mem_nil, or_false] at ofRange
        rcases ofRange with rfl | rfl
        · exact findingOf_isOfRule (limitFinding_isOfRule _ _ _) _
        · exact findingOf_isOfRule (limitFinding_isOfRule _ _ _) _
      · cases ofRange
  · split at ofCustom
    · rw [List.mem_singleton.mp ofCustom]
      exact customFinding_isOfRule _ _ _ _
    · cases ofCustom

theorem Leaf.findings_isOfRule (leaf : Leaf) (path : String) (value : Option Json) (scope : Scope)
    (validators : Validators) :
    ∀ finding ∈ leaf.findings path value scope validators, finding.IsOfRule := by
  intro finding member
  rcases List.mem_append.mp member with ofRules | ofCross
  · split at ofRules
    · exact RuleSet.findings_isOfRule _ _ _ _ _ finding ofRules
    · cases ofRules
  · obtain ⟨rule, _, rfl⟩ := List.mem_map.mp ofCross
    exact crossFinding_isOfRule _ _ _ _

namespace Snapshot

theorem noticesOf_noneUnsettled (snapshot : Snapshot) (visit : Visit) :
    NoneUnsettled (snapshot.noticesOf visit) := by
  unfold noticesOf
  split
  · exact Finding.notices_noneUnsettled (Leaf.findings_isOfRule _ _ _ _ _)
  · refine Finding.notices_noneUnsettled fun finding member => ?_
    unfold flowFindings at member
    split at member
    · exact RuleSet.findings_isOfRule _ _ _ _ _ finding member
    · cases member
  · exact .nil
  · exact .nil

theorem validateNodesNotices_noneUnsettled (snapshot : Snapshot) (nodes : List Node) :
    NoneUnsettled (snapshot.validateNodesNotices nodes) :=
  walkNotices_noneUnsettled snapshot.noticesOf_noneUnsettled .root nodes

theorem validateLocatedNotices_noneUnsettled (snapshot : Snapshot) (located : Located) :
    NoneUnsettled (snapshot.validateLocatedNotices located) :=
  .append (shownNotices_noneUnsettled _ _) (.ite (snapshot.noticesOf_noneUnsettled _) .nil)

end Snapshot

theorem Engine.currentNodesNotices_noneUnsettled (engine : Engine) :
    NoneUnsettled engine.currentNodesNotices := by
  unfold currentNodesNotices
  split
  · refine List.any_eq_false.mpr fun notice member => ?_
    obtain ⟨name, _, rfl⟩ := List.mem_map.mp member
    exact Bool.false_ne_true
  · exact .nil

theorem Ticket.completionNotices_noneUnsettled (ticket : Ticket) (result : FetchResult) :
    NoneUnsettled (ticket.completionNotices result) := by
  cases result <;> exact rfl

end DeclarativeForm
