import DeclarativeForm.Proofs.Validation.Rule
import Mathlib.Data.List.ReduceOption

/-!
Which rule of a leaf is reported. The rules that a leaf declares stand in one order, and the error of
the leaf is the message of the first one that fails. As a rule that cannot be applied never fails,
the leaf without it has the same error.
-/

set_option autoImplicit false

namespace DeclarativeForm

/-- The rules of a set in the order in which they count. -/
def RuleSet.declared (rules : RuleSet) : List LeafRule :=
  [rules.required.map .required, rules.minLength.map .minLength, rules.maxLength.map .maxLength,
    rules.pattern.map .pattern, rules.min.map .min, rules.max.map .max,
    rules.custom.map .custom].reduceOption

def Leaf.declared (leaf : Leaf) : List LeafRule :=
  leaf.validation.elim [] RuleSet.declared ++ leaf.crossValidation.map .cross

def Leaf.candidate (leaf : Leaf) (path : String) (value : Option Json) (scope : Scope)
    (validators : Validators) : Candidate :=
  ⟨leaf.kind.isNumeric, path, value, scope, validators⟩

/-! ### Taking a rule away -/

inductive RulePlace
  | required
  | minLength
  | maxLength
  | pattern
  | min
  | max
  | custom
  | cross (position : Nat)

namespace Leaf

def ruleAt (leaf : Leaf) : RulePlace → Option LeafRule
  | .required => leaf.validation.bind fun rules => rules.required.map .required
  | .minLength => leaf.validation.bind fun rules => rules.minLength.map .minLength
  | .maxLength => leaf.validation.bind fun rules => rules.maxLength.map .maxLength
  | .pattern => leaf.validation.bind fun rules => rules.pattern.map .pattern
  | .min => leaf.validation.bind fun rules => rules.min.map .min
  | .max => leaf.validation.bind fun rules => rules.max.map .max
  | .custom => leaf.validation.bind fun rules => rules.custom.map .custom
  | .cross position => leaf.crossValidation[position]?.map .cross

def mapRules (leaf : Leaf) (change : RuleSet → RuleSet) : Leaf :=
  { leaf with validation := leaf.validation.map change }

def without (leaf : Leaf) : RulePlace → Leaf
  | .required => leaf.mapRules fun rules => { rules with required := none }
  | .minLength => leaf.mapRules fun rules => { rules with minLength := none }
  | .maxLength => leaf.mapRules fun rules => { rules with maxLength := none }
  | .pattern => leaf.mapRules fun rules => { rules with pattern := none }
  | .min => leaf.mapRules fun rules => { rules with min := none }
  | .max => leaf.mapRules fun rules => { rules with max := none }
  | .custom => leaf.mapRules fun rules => { rules with custom := none }
  | .cross position => { leaf with crossValidation := leaf.crossValidation.eraseIdx position }

theorem kind_without (leaf : Leaf) (place : RulePlace) : (leaf.without place).kind = leaf.kind := by
  cases place <;> rfl

end Leaf

inductive TakesOut (rule : LeafRule) : List LeafRule → List LeafRule → Prop
  | here (rest : List LeafRule) : TakesOut rule (rule :: rest) rest
  | later (first : LeafRule) {rules left : List LeafRule} (rest : TakesOut rule rules left) :
      TakesOut rule (first :: rules) (first :: left)

namespace TakesOut

variable {rule : LeafRule} {rules left : List LeafRule}

theorem append_left (front : List LeafRule) (taken : TakesOut rule rules left) :
    TakesOut rule (front ++ rules) (front ++ left) := by
  induction front with
  | nil => exact taken
  | cons first rest ih => exact .later first ih

theorem append_right (taken : TakesOut rule rules left) (back : List LeafRule) :
    TakesOut rule (rules ++ back) (left ++ back) := by
  induction taken with
  | here rest => exact .here (rest ++ back)
  | later first _ ih => exact .later first ih

theorem eraseIdx {rules : List CrossRule} {position : Nat}
    (isThere : rules[position]?.map .cross = some rule) :
    TakesOut rule (rules.map .cross) ((rules.eraseIdx position).map .cross) := by
  induction rules generalizing position with
  | nil => cases isThere
  | cons first rest ih =>
      cases position with
      | zero =>
          cases isThere
          exact .here _
      | succ position => exact .later _ (ih isThere)

theorem findSome?_eq {message? : LeafRule → Option String} (taken : TakesOut rule rules left)
    (silent : message? rule = none) : left.findSome? message? = rules.findSome? message? := by
  induction taken with
  | here rest => rw [List.findSome?_cons, silent]
  | later first _ ih => rw [List.findSome?_cons, List.findSome?_cons, ih]

end TakesOut

theorem takesOut_reduceOption {rule : LeafRule} {slot : Option LeafRule}
    (isThere : slot = some rule) (front back : List (Option LeafRule)) :
    TakesOut rule (front ++ slot :: back).reduceOption (front ++ none :: back).reduceOption := by
  rw [isThere, List.reduceOption_append, List.reduceOption_append, List.reduceOption_cons_of_some,
    List.reduceOption_cons_of_none]
  exact TakesOut.append_left _ (.here _)

theorem Leaf.takesOut_mapRules {leaf : Leaf} {select : RuleSet → Option LeafRule}
    {change : RuleSet → RuleSet} {rule : LeafRule}
    (declares : leaf.validation.bind select = some rule)
    (takes : ∀ rules, select rules = some rule →
      TakesOut rule rules.declared (change rules).declared) :
    TakesOut rule leaf.declared (leaf.mapRules change).declared := by
  obtain ⟨rules, validated, selected⟩ := Option.bind_eq_some_iff.mp declares
  unfold Leaf.declared Leaf.mapRules
  rw [validated]
  exact TakesOut.append_right (takes rules selected) _

theorem Leaf.takesOut {leaf : Leaf} {place : RulePlace} {rule : LeafRule}
    (declares : leaf.ruleAt place = some rule) :
    TakesOut rule leaf.declared (leaf.without place).declared := by
  cases place with
  | required =>
      exact takesOut_mapRules declares fun _ isThere => takesOut_reduceOption isThere [] _
  | minLength =>
      exact takesOut_mapRules declares fun _ isThere => takesOut_reduceOption isThere [_] _
  | maxLength =>
      exact takesOut_mapRules declares fun _ isThere => takesOut_reduceOption isThere [_, _] _
  | pattern =>
      exact takesOut_mapRules declares fun _ isThere => takesOut_reduceOption isThere [_, _, _] _
  | min =>
      exact takesOut_mapRules declares fun _ isThere =>
        takesOut_reduceOption isThere [_, _, _, _] _
  | max =>
      exact takesOut_mapRules declares fun _ isThere =>
        takesOut_reduceOption isThere [_, _, _, _, _] _
  | custom =>
      exact takesOut_mapRules declares fun _ isThere =>
        takesOut_reduceOption isThere [_, _, _, _, _, _] _
  | cross position =>
      unfold Leaf.declared without
      apply TakesOut.append_left
      exact TakesOut.eraseIdx declares

/-! ### The rules of a leaf, one after the other -/

namespace Finding

theorem firstFailure_eq (findings : List Finding) :
    firstFailure findings = findings.findSome? failure? := by
  induction findings with
  | nil => rfl
  | cons finding rest ih =>
      rw [List.findSome?_cons, ← ih]
      cases finding <;> rfl

theorem findSome?_cons (finding : Finding) (rest : List Finding) :
    (finding :: rest).findSome? failure? = finding.failure?.or (rest.findSome? failure?) := by
  rw [List.findSome?_cons]
  cases finding.failure? <;> rfl

end Finding

theorem failure?_findingOf (rule : Option Rule) (find : Rule → Finding) :
    (findingOf rule find).failure? = rule.bind fun rule => (find rule).failure? := by
  cases rule <;> rfl

theorem findSome?_reduceOption_cons (message? : LeafRule → Option String)
    (slot : Option LeafRule) (rest : List (Option LeafRule)) :
    (slot :: rest).reduceOption.findSome? message? =
      (slot.bind message?).or (rest.reduceOption.findSome? message?) := by
  cases slot with
  | none => rfl
  | some rule =>
      rw [List.reduceOption_cons_of_some, List.findSome?_cons, Option.bind_some]
      cases message? rule <;> rfl

section Sets

variable (rules : RuleSet) (candidate : Candidate)

theorem findSome?_textFindings (later : Option String) :
    ((rules.textFindings candidate.validators.matcher candidate.value).findSome?
        Finding.failure?).or later =
      ((rules.minLength.map .minLength).bind (LeafRule.message? candidate)).or
        (((rules.maxLength.map .maxLength).bind (LeafRule.message? candidate)).or
          (((rules.pattern.map .pattern).bind (LeafRule.message? candidate)).or later)) := by
  cases isText : candidate.text? with
  | none =>
      have nothing : rules.textFindings candidate.validators.matcher candidate.value = [] := by
        unfold RuleSet.textFindings
        split
        · rename_i text isValue
          have empty : text.isEmpty = true := by
            by_contra notEmpty
            have found := Candidate.text?_eq_some_iff.mpr ⟨isValue, by simpa using notEmpty⟩
            rw [isText] at found
            cases found
          exact if_pos empty
        · rfl
      simp [nothing, Option.bind_map, Function.comp_def, LeafRule.message?, isText]
  | some text =>
      obtain ⟨isValue, notEmpty⟩ := Candidate.text?_eq_some_iff.mp isText
      simp [isValue, notEmpty, RuleSet.textFindings, Option.bind_map, Function.comp_def,
        LeafRule.message?, isText, failure?_findingOf, Finding.findSome?_cons, Option.or_assoc]

theorem findSome?_rangeFindings (later : Option String) :
    ((rules.rangeFindings candidate.numeric candidate.value).findSome? Finding.failure?).or later =
      ((rules.min.map .min).bind (LeafRule.message? candidate)).or
        (((rules.max.map .max).bind (LeafRule.message? candidate)).or later) := by
  cases isNumber : candidate.number? with
  | none =>
      have nothing : rules.rangeFindings candidate.numeric candidate.value = [] := by
        unfold RuleSet.rangeFindings
        split
        · rename_i number isNumeric found
          rw [Candidate.number?, isNumeric, if_pos rfl, found] at isNumber
          cases isNumber
        · rfl
      simp [nothing, Option.bind_map, Function.comp_def, LeafRule.message?, isNumber]
  | some number =>
      obtain ⟨isNumeric, value, isValue, read⟩ := Candidate.number?_eq_some_iff.mp isNumber
      simp [isNumeric, isValue, read, RuleSet.rangeFindings, Option.bind_map, Function.comp_def,
        LeafRule.message?, isNumber, failure?_findingOf, Finding.findSome?_cons, Option.or_assoc]

theorem RuleSet.findSome?_findings :
    (rules.findings candidate.numeric candidate.value candidate.scope
        candidate.validators).findSome? Finding.failure? =
      rules.declared.findSome? (LeafRule.message? candidate) := by
  unfold RuleSet.findings RuleSet.declared
  rw [Finding.findSome?_cons, List.findSome?_append, List.findSome?_append, Option.or_assoc,
    findSome?_textFindings, findSome?_rangeFindings, failure?_findingOf]
  simp only [findSome?_reduceOption_cons, List.reduceOption_nil, List.findSome?_nil,
    Option.or_none]
  cases rules.custom with
  | none => simp [Option.bind_map, Function.comp_def, LeafRule.message?]
  | some rule =>
      simp [Option.bind_map, Function.comp_def, LeafRule.message?]

end Sets

theorem Leaf.error?_eq (leaf : Leaf) (path : String) (value : Option Json) (scope : Scope)
    (validators : Validators) : leaf.error? path value scope validators =
      leaf.declared.findSome? (LeafRule.message? (leaf.candidate path value scope validators)) := by
  unfold Leaf.error? Leaf.findings Leaf.declared
  rw [Finding.firstFailure_eq, List.findSome?_append, List.findSome?_append, List.findSome?_map,
    List.findSome?_map]
  congr 1
  cases leaf.validation with
  | none => rfl
  | some rules =>
      exact RuleSet.findSome?_findings rules (leaf.candidate path value scope validators)

/-- The error of a leaf is the message of the first of its rules that fails, and there is none when
none fails; a rule that cannot be applied may as well not be there. -/
theorem Leaf.error?_first_failing (leaf : Leaf) (path : String) (value : Option Json)
    (scope : Scope) (validators : Validators) :
    (∀ message, leaf.error? path value scope validators = some message ↔
      ∃ before rule after, leaf.declared = before ++ rule :: after ∧
        rule.Fails (leaf.candidate path value scope validators) message ∧
        ∀ earlier ∈ before, ∀ other,
          ¬earlier.Fails (leaf.candidate path value scope validators) other) ∧
    (leaf.error? path value scope validators = none ↔ ∀ rule ∈ leaf.declared, ∀ message,
      ¬rule.Fails (leaf.candidate path value scope validators) message) ∧
    (∀ place rule, leaf.ruleAt place = some rule →
      rule.Inapplicable (leaf.candidate path value scope validators) →
        (leaf.without place).error? path value scope validators =
          leaf.error? path value scope validators) := by
  refine ⟨?_, ?_, ?_⟩
  · intro message
    rw [leaf.error?_eq, List.findSome?_eq_some_iff]
    simp only [LeafRule.message?_eq_some_iff, LeafRule.message?_eq_none_iff]
  · rw [leaf.error?_eq, List.findSome?_eq_none_iff]
    simp only [LeafRule.message?_eq_none_iff]
  · intro place rule declares inapplicable
    have same : (leaf.without place).candidate path value scope validators =
        leaf.candidate path value scope validators := by
      rw [Leaf.candidate, leaf.kind_without place, Leaf.candidate]
    rw [Leaf.error?_eq, Leaf.error?_eq, same]
    apply (Leaf.takesOut declares).findSome?_eq
    exact LeafRule.message?_eq_none_iff.mpr inapplicable.not_fails

/-- A name of three letters at most. The other rules cannot be applied: one is switched off, one has
no number, and a pattern is not closed. -/
def shortName : Leaf where
  name := "nickname"
  kind := .text
  label := none
  placeholder := none
  helpText := none
  tooltip := none
  defaultValue := none
  validation := some
    { required := some ⟨.bool false, ""⟩
      minLength := some ⟨.string "many", "Too short"⟩
      maxLength := some ⟨.ofNat 3, "Three letters at most"⟩
      min := none
      max := none
      pattern := some ⟨.string "(", "Not a name"⟩
      custom := none }
  showWhen := none
  options := []
  optionsSource := none
  crossValidation := []
  showPasswordStrength := false
  characterCounter := false

theorem shortName_tooLong :
    let scope := Scope.global .null
    shortName.error? "nickname" (some (.string "Anna")) scope .empty =
        some "Three letters at most" ∧
      (shortName.without .minLength).error? "nickname" (some (.string "Anna")) scope .empty =
        some "Three letters at most" ∧
      shortName.error? "nickname" (some (.string "Ann")) scope .empty = none := by
  intro scope
  have notNumeric : (⟨.string "many", "Too short"⟩ : Rule).threshold = none := by decide +kernel
  have long : (Binary64.ofNat 3).less (Binary64.ofNat "Anna".length) = true := by decide +kernel
  have short : (Binary64.ofNat 3).less (Binary64.ofNat "Ann".length) = false := by decide +kernel
  have invalid : Pattern.Matcher.standard.search "(" "" = .invalid := by decide +kernel
  have tooLong : shortName.error? "nickname" (some (.string "Anna")) scope .empty =
      some "Three letters at most" := by
    apply ((shortName.error?_first_failing _ _ _ _).1 _).mpr
    refine ⟨[.required _, .minLength _], .maxLength _, [.pattern _], rfl,
      .maxLength rfl (by decide) rfl long, ?_⟩
    intro earlier member other
    rcases List.mem_cons.mp member with rfl | isLast
    · exact (LeafRule.Inapplicable.required rfl).not_fails other
    · rw [List.mem_singleton.mp isLast]
      exact (LeafRule.Inapplicable.minLength notNumeric).not_fails other
  refine ⟨tooLong, ?_, ?_⟩
  · rw [(shortName.error?_first_failing _ _ _ _).2.2 .minLength _ rfl (.minLength notNumeric)]
    exact tooLong
  · apply (shortName.error?_first_failing _ _ _ _).2.1.mpr
    intro rule member message
    have isOne : rule ∈ [LeafRule.required _, .minLength _, .maxLength _, .pattern _] := member
    simp only [List.mem_cons, List.not_mem_nil, or_false] at isOne
    rcases isOne with rfl | rfl | rfl | rfl
    · exact (LeafRule.Inapplicable.required rfl).not_fails message
    · exact (LeafRule.Inapplicable.minLength notNumeric).not_fails message
    · intro fails
      cases fails with
      | maxLength isText notEmpty bound isLong =>
          cases isText
          cases bound
          exact Bool.false_ne_true (short.symm.trans isLong)
    · exact (LeafRule.Inapplicable.patternInvalid rfl invalid).not_fails message

end DeclarativeForm
