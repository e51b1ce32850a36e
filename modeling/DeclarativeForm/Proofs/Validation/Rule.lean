import DeclarativeForm.Validation.Rules

/-!
When a rule of a leaf fails, and when it cannot be applied, said of each kind of rule on its own. A
rule reports a message exactly when it fails with it; and a rule that cannot be applied never
fails, which for a pattern without a meaning holds whatever text it is looked for in.
-/

set_option autoImplicit false

namespace DeclarativeForm

inductive LeafRule
  | required (rule : Rule)
  | minLength (rule : Rule)
  | maxLength (rule : Rule)
  | pattern (rule : Rule)
  | min (rule : Rule)
  | max (rule : Rule)
  | custom (rule : CustomRule)
  | cross (rule : CrossRule)

structure Candidate where
  numeric : Bool
  path : String
  value : Option Json
  scope : Scope
  validators : Validators

namespace LeafRule

inductive Fails (candidate : Candidate) : LeafRule → String → Prop
  | required {rule : Rule} (enabled : rule.isEnabled = true)
      (missing : isMissing candidate.value = true) :
      Fails candidate (.required rule) (rule.messageOr "This field is required.")
  | minLength {rule : Rule} {text : String} {limit : Binary64}
      (isText : candidate.value = some (.string text)) (notEmpty : text ≠ "")
      (bound : rule.threshold = some limit)
      (short : (Binary64.ofNat text.length).less limit = true) :
      Fails candidate (.minLength rule) (rule.messageOr "Value is too short.")
  | maxLength {rule : Rule} {text : String} {limit : Binary64}
      (isText : candidate.value = some (.string text)) (notEmpty : text ≠ "")
      (bound : rule.threshold = some limit)
      (long : limit.less (Binary64.ofNat text.length) = true) :
      Fails candidate (.maxLength rule) (rule.messageOr "Value is too long.")
  | pattern {rule : Rule} {text source : String}
      (isText : candidate.value = some (.string text)) (notEmpty : text ≠ "")
      (isPattern : rule.value = .string source)
      (absent : candidate.validators.matcher.search source text = .absent) :
      Fails candidate (.pattern rule) (rule.messageOr "Value has an invalid format.")
  | min {rule : Rule} {value : Json} {number limit : Binary64} (numeric : candidate.numeric = true)
      (isValue : candidate.value = some value) (isNumber : value.toNumber? = some number)
      (bound : rule.threshold = some limit) (small : number.less limit = true) :
      Fails candidate (.min rule) (rule.messageOr "Value is too small.")
  | max {rule : Rule} {value : Json} {number limit : Binary64} (numeric : candidate.numeric = true)
      (isValue : candidate.value = some value) (isNumber : value.toNumber? = some number)
      (bound : rule.threshold = some limit) (large : limit.less number = true) :
      Fails candidate (.max rule) (rule.messageOr "Value is too large.")
  | custom {rule : CustomRule} {validator : CustomValidator} {reported : String}
      (registered : candidate.validators.custom.find? rule.function = some validator)
      (reports : validator (candidate.value.getD .null) candidate.scope = some reported) :
      Fails candidate (.custom rule) (if rule.message.isEmpty then reported else rule.message)
  | cross {rule : CrossRule} {validator : CrossValidator}
      (registered : candidate.validators.cross.find? rule.rule = some validator)
      (violated : validator candidate.scope candidate.path rule.dependsOn = false) :
      Fails candidate (.cross rule)
        (if rule.message.isEmpty then "Value is inconsistent with related fields."
          else rule.message)

/-- A rule cannot be applied. A pattern without a meaning has none for any text. -/
inductive Inapplicable (candidate : Candidate) : LeafRule → Prop
  | required {rule : Rule} (disabled : rule.isEnabled = false) :
      Inapplicable candidate (.required rule)
  | minLength {rule : Rule} (notNumeric : rule.threshold = none) :
      Inapplicable candidate (.minLength rule)
  | maxLength {rule : Rule} (notNumeric : rule.threshold = none) :
      Inapplicable candidate (.maxLength rule)
  | patternNotText {rule : Rule} (notText : ∀ source, rule.value ≠ .string source) :
      Inapplicable candidate (.pattern rule)
  | patternInvalid {rule : Rule} {source text : String} (isPattern : rule.value = .string source)
      (invalid : candidate.validators.matcher.search source text = .invalid) :
      Inapplicable candidate (.pattern rule)
  | patternGaveUp {rule : Rule} {source text : String} (isPattern : rule.value = .string source)
      (isText : candidate.value = some (.string text))
      (gaveUp : candidate.validators.matcher.search source text = .gaveUp) :
      Inapplicable candidate (.pattern rule)
  | min {rule : Rule} (notNumeric : rule.threshold = none) : Inapplicable candidate (.min rule)
  | max {rule : Rule} (notNumeric : rule.threshold = none) : Inapplicable candidate (.max rule)
  | custom {rule : CustomRule}
      (unknown : candidate.validators.custom.find? rule.function = none) :
      Inapplicable candidate (.custom rule)
  | cross {rule : CrossRule} (unknown : candidate.validators.cross.find? rule.rule = none) :
      Inapplicable candidate (.cross rule)

end LeafRule

/-! ### Messages -/

namespace Finding

def failure? : Finding → Option String
  | fails message => some message
  | _ => none

theorem failure?_ofViolation (violated : Bool) (message : String) :
    (ofViolation violated message).failure? = if violated then some message else none := by
  cases violated <;> rfl

end Finding

theorem failure?_limitFinding (name fallback : String) (violates : Binary64 → Bool) (rule : Rule) :
    (limitFinding name fallback violates rule).failure? =
      rule.threshold.bind fun limit =>
        if violates limit then some (rule.messageOr fallback) else none := by
  unfold limitFinding
  cases rule.threshold with
  | none => rfl
  | some limit => exact Finding.failure?_ofViolation _ _

namespace Candidate

def text? (candidate : Candidate) : Option String :=
  match candidate.value with
  | some (.string text) => if text.isEmpty then none else some text
  | _ => none

def number? (candidate : Candidate) : Option Binary64 :=
  if candidate.numeric then candidate.value.bind Json.toNumber? else none

theorem text?_eq_some_iff {candidate : Candidate} {text : String} :
    candidate.text? = some text ↔ candidate.value = some (.string text) ∧ text ≠ "" := by
  unfold text?
  split
  · rename_i other isText
    rw [isText]
    by_cases empty : other = ""
    · subst empty
      simp
    · have isFilled : ¬other.isEmpty = true := by simpa using empty
      rw [if_neg isFilled]
      constructor
      · intro same
        cases same
        exact ⟨rfl, empty⟩
      · rintro ⟨same, _⟩
        cases same
        rfl
  · rename_i notText
    simp only [reduceCtorEq, false_iff, not_and]
    intro isText
    exact absurd isText (notText text)

theorem number?_eq_some_iff {candidate : Candidate} {number : Binary64} :
    candidate.number? = some number ↔
      candidate.numeric = true ∧ ∃ value, candidate.value = some value ∧
        value.toNumber? = some number := by
  unfold number?
  cases candidate.numeric with
  | false => simp
  | true => simp [Option.bind_eq_some_iff]

end Candidate

def LeafRule.message? (candidate : Candidate) : LeafRule → Option String
  | .required rule => (requiredFinding candidate.value rule).failure?
  | .minLength rule => candidate.text?.bind fun text =>
      (limitFinding "minLength" "Value is too short."
        (fun limit => (Binary64.ofNat text.length).less limit) rule).failure?
  | .maxLength rule => candidate.text?.bind fun text =>
      (limitFinding "maxLength" "Value is too long."
        (fun limit => limit.less (Binary64.ofNat text.length)) rule).failure?
  | .pattern rule => candidate.text?.bind fun text =>
      (patternFinding candidate.validators.matcher text rule).failure?
  | .min rule => candidate.number?.bind fun number =>
      (limitFinding "min" "Value is too small." (fun limit => number.less limit) rule).failure?
  | .max rule => candidate.number?.bind fun number =>
      (limitFinding "max" "Value is too large." (fun limit => limit.less number) rule).failure?
  | .custom rule =>
      (customFinding candidate.validators candidate.value candidate.scope rule).failure?
  | .cross rule =>
      (crossFinding candidate.validators candidate.path candidate.scope rule).failure?

theorem limitFinding_fails_iff {name fallback message : String} {violates : Binary64 → Bool}
    {rule : Rule} : (limitFinding name fallback violates rule).failure? = some message ↔
      ∃ limit, rule.threshold = some limit ∧ violates limit = true ∧
        rule.messageOr fallback = message := by
  rw [failure?_limitFinding]
  simp [Option.bind_eq_some_iff]

theorem patternFinding_fails_iff {matcher : Pattern.Matcher} {text message : String}
    {rule : Rule} : (patternFinding matcher text rule).failure? = some message ↔
      ∃ source, rule.value = .string source ∧ matcher.search source text = .absent ∧
        rule.messageOr "Value has an invalid format." = message := by
  unfold patternFinding
  split
  · rename_i source isPattern
    cases found : matcher.search source text <;> simp [Finding.failure?, isPattern, found]
  · rename_i notPattern
    constructor
    · intro impossible
      cases impossible
    · rintro ⟨source, isPattern, _⟩
      exact absurd isPattern (notPattern source)

namespace LeafRule

variable {candidate : Candidate} {rule : LeafRule}

theorem Fails.of_message? {message : String} (reports : rule.message? candidate = some message) :
    rule.Fails candidate message := by
  cases rule with
  | required rule =>
      rw [message?, requiredFinding, Finding.failure?_ofViolation] at reports
      split at reports
      · rename_i both
        cases reports
        obtain ⟨enabled, missing⟩ := Bool.and_eq_true_iff.mp both
        exact .required enabled missing
      · cases reports
  | minLength rule =>
      obtain ⟨text, found, fails⟩ := Option.bind_eq_some_iff.mp reports
      obtain ⟨isText, notEmpty⟩ := Candidate.text?_eq_some_iff.mp found
      obtain ⟨limit, bound, short, rfl⟩ := limitFinding_fails_iff.mp fails
      exact .minLength isText notEmpty bound short
  | maxLength rule =>
      obtain ⟨text, found, fails⟩ := Option.bind_eq_some_iff.mp reports
      obtain ⟨isText, notEmpty⟩ := Candidate.text?_eq_some_iff.mp found
      obtain ⟨limit, bound, long, rfl⟩ := limitFinding_fails_iff.mp fails
      exact .maxLength isText notEmpty bound long
  | pattern rule =>
      obtain ⟨text, found, fails⟩ := Option.bind_eq_some_iff.mp reports
      obtain ⟨isText, notEmpty⟩ := Candidate.text?_eq_some_iff.mp found
      obtain ⟨source, isPattern, absent, rfl⟩ := patternFinding_fails_iff.mp fails
      exact .pattern isText notEmpty isPattern absent
  | min rule =>
      obtain ⟨number, found, fails⟩ := Option.bind_eq_some_iff.mp reports
      obtain ⟨numeric, value, isValue, isNumber⟩ := Candidate.number?_eq_some_iff.mp found
      obtain ⟨limit, bound, small, rfl⟩ := limitFinding_fails_iff.mp fails
      exact .min numeric isValue isNumber bound small
  | max rule =>
      obtain ⟨number, found, fails⟩ := Option.bind_eq_some_iff.mp reports
      obtain ⟨numeric, value, isValue, isNumber⟩ := Candidate.number?_eq_some_iff.mp found
      obtain ⟨limit, bound, large, rfl⟩ := limitFinding_fails_iff.mp fails
      exact .max numeric isValue isNumber bound large
  | custom rule =>
      rw [message?, customFinding] at reports
      split at reports
      · cases reports
      · rename_i validator registered
        split at reports
        · cases reports
        · rename_i reported answer
          cases reports
          exact .custom registered answer
  | cross rule =>
      rw [message?, crossFinding] at reports
      split at reports
      · cases reports
      · rename_i validator registered
        rw [Finding.failure?_ofViolation] at reports
        split at reports
        · rename_i violated
          cases reports
          exact .cross registered (by simpa using violated)
        · cases reports

theorem Fails.message?_eq {message : String} (fails : rule.Fails candidate message) :
    rule.message? candidate = some message := by
  cases fails with
  | required enabled missing =>
      simp [message?, requiredFinding, Finding.failure?_ofViolation, enabled, missing]
  | minLength isText notEmpty bound short =>
      have text := Candidate.text?_eq_some_iff.mpr ⟨isText, notEmpty⟩
      simp [message?, text, failure?_limitFinding, bound, short]
  | maxLength isText notEmpty bound long =>
      have text := Candidate.text?_eq_some_iff.mpr ⟨isText, notEmpty⟩
      simp [message?, text, failure?_limitFinding, bound, long]
  | pattern isText notEmpty isPattern absent =>
      have text := Candidate.text?_eq_some_iff.mpr ⟨isText, notEmpty⟩
      rw [message?, text, Option.bind_some]
      exact patternFinding_fails_iff.mpr ⟨_, isPattern, absent, rfl⟩
  | min numeric isValue isNumber bound small =>
      have number := Candidate.number?_eq_some_iff.mpr ⟨numeric, _, isValue, isNumber⟩
      simp [message?, number, failure?_limitFinding, bound, small]
  | max numeric isValue isNumber bound large =>
      have number := Candidate.number?_eq_some_iff.mpr ⟨numeric, _, isValue, isNumber⟩
      simp [message?, number, failure?_limitFinding, bound, large]
  | custom registered reports =>
      simp [message?, customFinding, registered, reports, Finding.failure?]
  | cross registered violated =>
      simp [message?, crossFinding, registered, violated, Finding.failure?_ofViolation]

theorem message?_eq_some_iff {message : String} :
    rule.message? candidate = some message ↔ rule.Fails candidate message :=
  ⟨Fails.of_message?, Fails.message?_eq⟩

theorem message?_eq_none_iff :
    rule.message? candidate = none ↔ ∀ message, ¬rule.Fails candidate message := by
  rw [Option.eq_none_iff_forall_ne_some]
  constructor
  · intro silent message fails
    exact silent message (message?_eq_some_iff.mpr fails)
  · intro never message reports
    exact never message (message?_eq_some_iff.mp reports)

theorem Inapplicable.not_fails (inapplicable : rule.Inapplicable candidate) (message : String) :
    ¬rule.Fails candidate message := by
  intro fails
  cases inapplicable with
  | required disabled =>
      cases fails with
      | required enabled missing => simp [disabled] at enabled
  | minLength notNumeric =>
      cases fails with
      | minLength isText notEmpty bound short => simp [notNumeric] at bound
  | maxLength notNumeric =>
      cases fails with
      | maxLength isText notEmpty bound long => simp [notNumeric] at bound
  | patternNotText notText =>
      cases fails with
      | pattern isText notEmpty isPattern absent => exact notText _ isPattern
  | patternInvalid isSource invalid =>
      cases fails with
      | pattern isText notEmpty isPattern absent =>
          cases isSource.symm.trans isPattern
          rw [candidate.validators.matcher.search_invalid_congr invalid] at absent
          cases absent
  | patternGaveUp isSource isValue gaveUp =>
      cases fails with
      | pattern isText notEmpty isPattern absent =>
          cases isSource.symm.trans isPattern
          cases isValue.symm.trans isText
          rw [gaveUp] at absent
          cases absent
  | min notNumeric =>
      cases fails with
      | min numeric isValue isNumber bound small => simp [notNumeric] at bound
  | max notNumeric =>
      cases fails with
      | max numeric isValue isNumber bound large => simp [notNumeric] at bound
  | custom unknown =>
      cases fails with
      | custom registered reports => simp [unknown] at registered
  | cross unknown =>
      cases fails with
      | cross registered violated => simp [unknown] at registered

end LeafRule

end DeclarativeForm
