import DeclarativeForm.Validation.Checksum
import Mathlib.Logic.Function.Iterate
import Mathlib.Tactic.SplitIfs

/-!
What the checksum of card numbers catches. The weighted sum splits at every position, and the
parity of what is to the right of a digit decides whether it is doubled. Doubling permutes the
digits modulo ten, so no misread digit goes unnoticed; and a digit and its double differ by another
amount for every digit but zero and nine, so these two are the only neighbours that may change
places.
-/

set_option autoImplicit false

namespace DeclarativeForm.Checksum

/-! ### Slips of the pen -/

def isSeparator (c : Char) : Bool := Text.isBlank c || c = '-'

/-- One digit was replaced by another character that counts. -/
def Misread (text other : String) : Prop :=
  ∃ before digit wrong after, text.toList = before ++ digit :: after ∧
    other.toList = before ++ wrong :: after ∧ digit.isDigit = true ∧
    isSeparator wrong = false ∧ wrong ≠ digit

/-- Two digits with nothing but separators between them have changed places. -/
def Exchanged (first second : Char) (text other : String) : Prop :=
  ∃ before between after, text.toList = before ++ first :: (between ++ second :: after) ∧
    other.toList = before ++ second :: (between ++ first :: after) ∧
    first.isDigit = true ∧ second.isDigit = true ∧ ∀ c ∈ between, isSeparator c = true

/-- Separators were added and removed, anywhere and any number of them. -/
inductive Respaced : List Char → List Char → Prop
  | nil : Respaced [] []
  | keep (c : Char) {text other : List Char} (rest : Respaced text other) :
      Respaced (c :: text) (c :: other)
  | add {c : Char} {text other : List Char} (separates : isSeparator c = true)
      (rest : Respaced text other) : Respaced text (c :: other)
  | remove {c : Char} {text other : List Char} (separates : isSeparator c = true)
      (rest : Respaced text other) : Respaced (c :: text) other

/-! ### Weights -/

def weight (even : Bool) (digit : Nat) : Nat := if even then doubled digit else digit

theorem weightedSum_cons (even : Bool) (digit : Nat) (rest : List Nat) :
    weightedSum even (digit :: rest) = weight even digit + weightedSum (!even) rest := rfl

theorem weightedSum_append (even : Bool) (front back : List Nat) :
    weightedSum even (front ++ back) =
      weightedSum even front + weightedSum (not^[front.length] even) back := by
  induction front generalizing even with
  | nil => simp [weightedSum]
  | cons digit rest ih =>
      rw [List.cons_append, weightedSum_cons, weightedSum_cons, ih, List.length_cons,
        Function.iterate_succ_apply]
      omega

theorem weight_le (even : Bool) {digit : Nat} (small : digit ≤ 9) : weight even digit ≤ 9 := by
  unfold weight doubled
  split_ifs <;> omega

theorem eq_of_weight_mod {even : Bool} {digit other : Nat} (small : digit ≤ 9)
    (otherSmall : other ≤ 9) (same : weight even digit % 10 = weight even other % 10) :
    digit = other := by
  -- Doubling sends 0, 1, .., 9 to 0, 2, 4, 6, 8, 1, 3, 5, 7, 9.
  unfold weight doubled at same
  split_ifs at same <;> omega

theorem weight_exchange_iff (even : Bool) {digit other : Nat} (small : digit ≤ 9)
    (otherSmall : other ≤ 9) :
    (weight even digit + weight (!even) other) % 10 =
        (weight even other + weight (!even) digit) % 10 ↔
      digit = other ∨ (digit = 0 ∧ other = 9) ∨ (digit = 9 ∧ other = 0) := by
  cases even
  · simp only [weight, doubled, Bool.not_false, if_true, Bool.false_eq_true, if_false]
    split_ifs <;> omega
  · simp only [weight, doubled, Bool.not_true, if_true, Bool.false_eq_true, if_false]
    split_ifs <;> omega

/-! ### Numbers -/

def digitValue (c : Char) : Nat := c.toNat - 48

def values (digits : List Char) : List Nat := digits.reverse.map digitValue

def total (digits : List Char) : Nat := weightedSum false (values digits)

theorem digitValue_le {c : Char} (digit : c.isDigit = true) : digitValue c ≤ 9 := by
  have bounds : 48 ≤ c.val.toNat ∧ c.val.toNat ≤ 57 := by
    simpa [Char.isDigit, UInt32.le_iff_toNat_le] using digit
  unfold digitValue Char.toNat
  omega

theorem digitValue_inj {c d : Char} (digit : c.isDigit = true) (other : d.isDigit = true) :
    digitValue c = digitValue d ↔ c = d := by
  have lower : 48 ≤ c.val.toNat := by
    simpa [UInt32.le_iff_toNat_le] using (Bool.and_eq_true_iff.mp digit).1
  have otherLower : 48 ≤ d.val.toNat := by
    simpa [UInt32.le_iff_toNat_le] using (Bool.and_eq_true_iff.mp other).1
  constructor
  · intro same
    apply Char.ext
    apply UInt32.toNat_inj.mp
    unfold digitValue Char.toNat at same
    omega
  · exact congrArg digitValue

/-- Neighbours may change places only if they are alike, or zero and nine. -/
theorem exchange_mod_iff (even : Bool) {c d : Char} (digit : c.isDigit = true)
    (other : d.isDigit = true) :
    (weight even (digitValue c) + weight (!even) (digitValue d)) % 10 =
        (weight even (digitValue d) + weight (!even) (digitValue c)) % 10 ↔
      c = d ∨ (c = '0' ∧ d = '9') ∨ (c = '9' ∧ d = '0') := by
  have zero : ∀ {x : Char}, x.isDigit = true → (x = '0' ↔ digitValue x = 0) := fun isDigit =>
    (digitValue_inj isDigit (by decide : '0'.isDigit = true)).symm
  have nine : ∀ {x : Char}, x.isDigit = true → (x = '9' ↔ digitValue x = 9) := fun isDigit =>
    (digitValue_inj isDigit (by decide : '9'.isDigit = true)).symm
  rw [zero digit, zero other, nine digit, nine other, ← digitValue_inj digit other]
  exact weight_exchange_iff even (digitValue_le digit) (digitValue_le other)

theorem values_concat (digits : List Char) (c : Char) :
    values (digits ++ [c]) = digitValue c :: values digits := by
  simp [values]

/-- Whether a digit is doubled, given those to the right of it. -/
def isDoubled (right : List Char) : Bool := not^[right.length] false

theorem total_append (left right : List Char) :
    total (left ++ right) = total right + weightedSum (isDoubled right) (values left) := by
  have apart : values (left ++ right) = values right ++ values left := by
    simp [values]
  have length : (values right).length = right.length := by
    simp [values]
  rw [total, apart, weightedSum_append, length, total, isDoubled]

theorem total_at (left right : List Char) (c : Char) :
    total (left ++ c :: right) = total right + (weight (isDoubled right) (digitValue c) +
      weightedSum (!isDoubled right) (values left)) := by
  rw [List.append_cons, total_append, values_concat, weightedSum_cons]

theorem total_pair (left right : List Char) (c d : Char) :
    total (left ++ c :: d :: right) = total right + (weight (isDoubled right) (digitValue d) +
      (weight (!isDoubled right) (digitValue c) +
        weightedSum (!!isDoubled right) (values left))) := by
  rw [List.append_cons, total_at, values_concat, weightedSum_cons]

theorem weightedSum_le (even : Bool) {digits : List Nat} (small : ∀ digit ∈ digits, digit ≤ 9) :
    weightedSum even digits ≤ 9 * digits.length := by
  induction digits generalizing even with
  | nil => simp [weightedSum]
  | cons digit rest ih =>
      have here := weight_le even (small digit List.mem_cons_self)
      have later := ih (!even) fun other member => small other (List.mem_cons_of_mem digit member)
      rw [weightedSum_cons, List.length_cons]
      omega

theorem total_lt {digits : List Char} (number : ∀ c ∈ digits, c.isDigit = true)
    (short : digits.length ≤ 477218588) : total digits < UInt32.size := by
  have small : ∀ digit ∈ values digits, digit ≤ 9 := by
    intro digit member
    obtain ⟨c, inDigits, rfl⟩ := List.mem_map.mp member
    exact digitValue_le (number c (List.mem_reverse.mp inDigits))
  have bound := weightedSum_le false small
  have length : (values digits).length = digits.length := by
    simp [values]
  unfold total UInt32.size
  omega

/-! ### What counts -/

theorem significant_eq (text : List Char) :
    significant text = text.filter fun c => !isSeparator c := by
  simp [significant, isSeparator, Bool.not_or]

theorem isSeparator_of_isDigit {c : Char} (digit : c.isDigit = true) : isSeparator c = false := by
  have bounds : 48 ≤ c.toNat ∧ c.toNat ≤ 57 := by
    simpa [Char.isDigit, UInt32.le_iff_toNat_le] using digit
  have notDash : c ≠ '-' := by
    rintro rfl
    exact absurd bounds (by decide)
  have notBlank : Text.isBlank c = false := by
    simp only [Text.isBlank, Bool.or_eq_false_iff, Bool.and_eq_false_iff, decide_eq_false_iff_not]
    omega
  rw [isSeparator, notBlank, Bool.false_or, decide_eq_false_iff_not]
  exact notDash

theorem significant_at {c : Char} (counts : isSeparator c = false) (before after : List Char) :
    significant (before ++ c :: after) = significant before ++ c :: significant after := by
  simp [significant_eq, counts]

theorem significant_separators {text : List Char} (separates : ∀ c ∈ text, isSeparator c = true) :
    significant text = [] := by
  simpa [significant_eq] using separates

theorem significant_pair {c d : Char} (digit : c.isDigit = true) (other : d.isDigit = true)
    {between : List Char} (separates : ∀ x ∈ between, isSeparator x = true)
    (before after : List Char) : significant (before ++ c :: (between ++ d :: after)) =
      significant before ++ c :: d :: significant after := by
  rw [significant_at (isSeparator_of_isDigit digit), significant_at (isSeparator_of_isDigit other),
    significant_separators separates, List.nil_append]

theorem Respaced.significant_eq {text other : List Char} (respaced : Respaced text other) :
    significant other = significant text := by
  induction respaced with
  | nil => rfl
  | keep c _ ih =>
      rw [Checksum.significant_eq, Checksum.significant_eq] at ih ⊢
      simp [List.filter_cons, ih]
  | add separates _ ih => simpa [Checksum.significant_eq, separates] using ih
  | remove separates _ ih => simpa [Checksum.significant_eq, separates] using ih

theorem accepts_iff (text : String) :
    accepts text = true ↔ significant text.toList ≠ [] ∧
      (∀ c ∈ significant text.toList, c.isDigit = true) ∧
      total (significant text.toList) % 10 = 0 := by
  have sum : weightedSum false ((significant text.toList).reverse.map fun c => c.toNat - 48) =
      total (significant text.toList) := rfl
  simp only [accepts, sum, Bool.and_eq_true, Bool.not_eq_true', List.isEmpty_eq_false_iff,
    List.all_eq_true, decide_eq_true_eq, and_assoc]

/-! ### Sums of 32 bits -/

def sum32 : Bool → List Nat → UInt32
  | _, [] => 0
  | even, digit :: rest => UInt32.ofNat (weight even digit) + sum32 (!even) rest

/-- The verdict on a text when the sum is kept in 32 bits. -/
def accepts32 (text : String) : Bool :=
  let digits := significant text.toList
  !digits.isEmpty && digits.all Char.isDigit && sum32 false (values digits) % 10 = 0

theorem sum32_eq (even : Bool) (digits : List Nat) :
    sum32 even digits = UInt32.ofNat (weightedSum even digits) := by
  induction digits generalizing even with
  | nil => rfl
  | cons digit rest ih => rw [sum32, ih, weightedSum_cons, UInt32.ofNat_add]

theorem sum32_mod_iff {digits : List Char} (number : ∀ c ∈ digits, c.isDigit = true)
    (short : digits.length ≤ 477218588) :
    sum32 false (values digits) % 10 = 0 ↔ total digits % 10 = 0 := by
  have exact : (sum32 false (values digits)).toNat = total digits := by
    rw [sum32_eq]
    exact UInt32.toNat_ofNat_of_lt' (total_lt number short)
  rw [← UInt32.toNat_inj, UInt32.toNat_mod, exact]
  rfl

theorem accepts32_eq {text : String} (short : (significant text.toList).length ≤ 477218588) :
    accepts32 text = accepts text := by
  apply Bool.eq_iff_iff.mpr
  rw [accepts_iff]
  simp only [accepts32, Bool.and_eq_true, Bool.not_eq_true', List.isEmpty_eq_false_iff,
    List.all_eq_true, decide_eq_true_eq, and_assoc]
  refine and_congr_right fun _ => and_congr_right fun number => ?_
  exact sum32_mod_iff number short

/-! ### What is caught -/

theorem Misread.rejected {text other : String} (misread : Misread text other)
    (valid : accepts text = true) : accepts other = false := by
  obtain ⟨before, digit, wrong, after, read, written, isDigit, counts, different⟩ := misread
  apply Bool.eq_false_iff.mpr
  intro accepted
  obtain ⟨_, _, balanced⟩ := (accepts_iff text).mp valid
  obtain ⟨_, number, unbalanced⟩ := (accepts_iff other).mp accepted
  rw [written, significant_at counts] at number unbalanced
  rw [read, significant_at (isSeparator_of_isDigit isDigit), total_at] at balanced
  rw [total_at] at unbalanced
  have wrongDigit : wrong.isDigit = true := number wrong (by simp)
  have same : weight (isDoubled (significant after)) (digitValue wrong) % 10 =
      weight (isDoubled (significant after)) (digitValue digit) % 10 := by
    omega
  have sameValue := eq_of_weight_mod (digitValue_le wrongDigit) (digitValue_le isDigit) same
  exact different ((digitValue_inj wrongDigit isDigit).mp sameValue)

theorem Exchanged.accepts_iff {first second : Char} {text other : String}
    (exchanged : Exchanged first second text other) (valid : accepts text = true) :
    accepts other = true ↔
      first = second ∨ (first = '0' ∧ second = '9') ∨ (first = '9' ∧ second = '0') := by
  obtain ⟨before, between, after, read, written, isFirst, isSecond, separates⟩ := exchanged
  obtain ⟨_, number, balanced⟩ := (Checksum.accepts_iff text).mp valid
  rw [read, significant_pair isFirst isSecond separates] at number balanced
  have reordered : (significant before ++ second :: first :: significant after).Perm
      (significant before ++ first :: second :: significant after) :=
    (List.Perm.swap first second _).append_left _
  have otherNumber : ∀ c ∈ significant before ++ second :: first :: significant after,
      c.isDigit = true := fun c member => number c (reordered.mem_iff.mp member)
  have notEmpty : significant before ++ second :: first :: significant after ≠ [] := by
    simp
  rw [Checksum.accepts_iff, written, significant_pair isSecond isFirst separates,
    and_iff_right notEmpty, and_iff_right otherNumber,
    ← exchange_mod_iff (isDoubled (significant after)) isFirst isSecond]
  rw [total_pair, Bool.not_not] at balanced ⊢
  constructor <;> intro same <;> omega

theorem Respaced.accepts_eq {text other : String} (respaced : Respaced text.toList other.toList) :
    accepts other = accepts text := by
  apply Bool.eq_iff_iff.mpr
  rw [Checksum.accepts_iff, Checksum.accepts_iff, respaced.significant_eq]

/-- A misread digit is caught, an exchange of neighbours is caught unless they are alike or zero and
nine, and separators do not matter. As long as no sum can overflow 32 bits, all this is so for sums
that are kept in 32 bits. -/
theorem catches_slips :
    (∀ text other, accepts text = true → Misread text other → accepts other = false) ∧
    (∀ text other first second, accepts text = true → Exchanged first second text other →
      (accepts other = true ↔
        first = second ∨ (first = '0' ∧ second = '9') ∨ (first = '9' ∧ second = '0'))) ∧
    (∀ text other : String, Respaced text.toList other.toList → accepts other = accepts text) ∧
    (∀ text : String, (significant text.toList).length ≤ 477218588 →
      accepts32 text = accepts text) := by
  refine ⟨?_, ?_, ?_, ?_⟩
  · intro text other valid misread
    exact misread.rejected valid
  · intro text other first second valid exchanged
    exact exchanged.accepts_iff valid
  · intro text other respaced
    exact respaced.accepts_eq
  · intro text short
    exact accepts32_eq short

/-- The first digit misread, the digits around the dash exchanged, and the dash moved. -/
theorem shortNumber_slips :
    accepts "59-18" = true ∧ accepts "69-18" = false ∧ accepts "51-98" = false ∧
      accepts "591 8" = true ∧ accepts32 "59-18" = true := by
  have valid : accepts "59-18" = true := by decide +kernel
  obtain ⟨misread, exchanged, respaced, short⟩ := catches_slips
  refine ⟨valid, ?_, ?_, ?_, ?_⟩
  · apply misread "59-18" "69-18" valid
    exact ⟨[], '5', '6', ['9', '-', '1', '8'], by decide, by decide, by decide, by decide,
      by decide⟩
  · have verdict := exchanged "59-18" "51-98" '9' '1' valid
      ⟨['5'], ['-'], ['8'], by decide, by decide, by decide, by decide, by simp [isSeparator]⟩
    rw [Bool.eq_false_iff, ne_eq, verdict]
    decide
  · have moved : Respaced "59-18".toList "591 8".toList :=
      .keep '5' (.keep '9' (.remove (by decide) (.keep '1' (.add (by decide) (.keep '8' .nil)))))
    rw [respaced "59-18" "591 8" moved, valid]
  · rw [short "59-18" (by decide +kernel), valid]

end DeclarativeForm.Checksum
