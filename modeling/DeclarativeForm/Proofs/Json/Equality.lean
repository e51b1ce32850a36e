import DeclarativeForm.Json.Basic

/-!
Equality of JSON values is an equivalence relation, and so is that of lists of values and of
optional ones. Arguments of requests are compared by it. It is coarser than identity, for the two
zeros are equal as values; identity is decidable as well.
-/

set_option autoImplicit false

namespace DeclarativeForm

theorem Number.same_symm {x y : Number} (equal : x.same y = true) : y.same x = true := by
  cases x <;> cases y <;> simp_all [Number.same]

theorem Number.same_trans {x y z : Number} (first : x.same y = true) (second : y.same z = true) :
    x.same z = true := by
  cases x <;> cases y <;> cases z <;> simp_all [Number.same]

namespace Json

mutual

theorem same_symm : ∀ x y : Json, same x y = true → same y x = true
  | .null, y, equal => by cases y <;> simp_all [same]
  | .bool _, y, equal => by cases y <;> simp_all [same]
  | .number _, y, equal => by
      cases y <;> simp only [same, Bool.false_eq_true] at equal ⊢
      exact Number.same_symm equal
  | .string _, y, equal => by cases y <;> simp_all [same]
  | .array items, y, equal => by
      cases y <;> simp only [same, Bool.false_eq_true] at equal ⊢
      exact sameItems_symm items _ equal
  | .object members, y, equal => by
      cases y <;> simp only [same, Bool.false_eq_true] at equal ⊢
      exact sameMembers_symm members _ equal

theorem sameItems_symm : ∀ xs ys : List Json, sameItems xs ys = true → sameItems ys xs = true
  | [], [], _ => rfl
  | [], _ :: _, equal => by simp [sameItems] at equal
  | _ :: _, [], equal => by simp [sameItems] at equal
  | x :: xs, y :: ys, equal => by
      simp only [sameItems, Bool.and_eq_true] at equal ⊢
      exact ⟨same_symm x y equal.1, sameItems_symm xs ys equal.2⟩

theorem sameMembers_symm : ∀ xs ys : List (String × Json),
    sameMembers xs ys = true → sameMembers ys xs = true
  | [], [], _ => rfl
  | [], _ :: _, equal => by simp [sameMembers] at equal
  | _ :: _, [], equal => by simp [sameMembers] at equal
  | (key, x) :: xs, (other, y) :: ys, equal => by
      simp only [sameMembers, Bool.and_eq_true, beq_iff_eq] at equal ⊢
      exact ⟨⟨equal.1.1.symm, same_symm x y equal.1.2⟩, sameMembers_symm xs ys equal.2⟩

end

mutual

theorem same_trans : ∀ x y z : Json, same x y = true → same y z = true → same x z = true
  | .null, y, z, first, second => by cases y <;> cases z <;> simp_all [same]
  | .bool _, y, z, first, second => by cases y <;> cases z <;> simp_all [same]
  | .number _, y, z, first, second => by
      cases y <;> simp only [same, Bool.false_eq_true] at first
      cases z <;> simp only [same, Bool.false_eq_true] at second ⊢
      exact Number.same_trans first second
  | .string _, y, z, first, second => by cases y <;> cases z <;> simp_all [same]
  | .array items, y, z, first, second => by
      cases y <;> simp only [same, Bool.false_eq_true] at first
      cases z <;> simp only [same, Bool.false_eq_true] at second ⊢
      exact sameItems_trans items _ _ first second
  | .object members, y, z, first, second => by
      cases y <;> simp only [same, Bool.false_eq_true] at first
      cases z <;> simp only [same, Bool.false_eq_true] at second ⊢
      exact sameMembers_trans members _ _ first second

theorem sameItems_trans : ∀ xs ys zs : List Json,
    sameItems xs ys = true → sameItems ys zs = true → sameItems xs zs = true
  | [], [], _, _, second => second
  | [], _ :: _, _, first, _ => by simp [sameItems] at first
  | _ :: _, [], _, first, _ => by simp [sameItems] at first
  | _ :: _, _ :: _, [], _, second => by simp [sameItems] at second
  | x :: xs, y :: ys, z :: zs, first, second => by
      simp only [sameItems, Bool.and_eq_true] at first second ⊢
      exact ⟨same_trans x y z first.1 second.1, sameItems_trans xs ys zs first.2 second.2⟩

theorem sameMembers_trans : ∀ xs ys zs : List (String × Json),
    sameMembers xs ys = true → sameMembers ys zs = true → sameMembers xs zs = true
  | [], [], _, _, second => second
  | [], _ :: _, _, first, _ => by simp [sameMembers] at first
  | _ :: _, [], _, first, _ => by simp [sameMembers] at first
  | _ :: _, _ :: _, [], _, second => by simp [sameMembers] at second
  | (_, x) :: xs, (_, y) :: ys, (_, z) :: zs, first, second => by
      simp only [sameMembers, Bool.and_eq_true, beq_iff_eq] at first second ⊢
      exact ⟨⟨first.1.1.trans second.1.1, same_trans x y z first.1.2 second.1.2⟩,
        sameMembers_trans xs ys zs first.2 second.2⟩

end

instance : EquivBEq Json where
  symm {x y} := same_symm x y
  trans {x y z} := same_trans x y z

/-! ### Identity -/

mutual

/-- Whether two values are written alike; unlike `same`, this tells the two zeros apart. -/
def decEq : (x y : Json) → Decidable (x = y)
  | .null, y => match y with
    | .null => isTrue rfl
    | .bool _ | .number _ | .string _ | .array _ | .object _ => isFalse nofun
  | .bool x, y => match y with
    | .bool y => decidable_of_iff (x = y) (by simp)
    | .null | .number _ | .string _ | .array _ | .object _ => isFalse nofun
  | .number x, y => match y with
    | .number y => decidable_of_iff (x = y) (by simp)
    | .null | .bool _ | .string _ | .array _ | .object _ => isFalse nofun
  | .string x, y => match y with
    | .string y => decidable_of_iff (x = y) (by simp)
    | .null | .bool _ | .number _ | .array _ | .object _ => isFalse nofun
  | .array xs, y => match y with
    | .array ys => @decidable_of_iff _ (xs = ys) (by simp) (decEqItems xs ys)
    | .null | .bool _ | .number _ | .string _ | .object _ => isFalse nofun
  | .object xs, y => match y with
    | .object ys => @decidable_of_iff _ (xs = ys) (by simp) (decEqMembers xs ys)
    | .null | .bool _ | .number _ | .string _ | .array _ => isFalse nofun
termination_by structural value => value

def decEqItems : (xs ys : List Json) → Decidable (xs = ys)
  | [], [] => isTrue rfl
  | [], _ :: _ => isFalse nofun
  | _ :: _, [] => isFalse nofun
  | x :: xs, y :: ys =>
    match decEq x y, decEqItems xs ys with
    | isTrue one, isTrue two => isTrue (by rw [one, two])
    | isFalse one, _ => isFalse (fun same => one (List.cons.inj same).1)
    | _, isFalse two => isFalse (fun same => two (List.cons.inj same).2)
termination_by structural items => items

def decEqMembers : (xs ys : List (String × Json)) → Decidable (xs = ys)
  | [], [] => isTrue rfl
  | [], _ :: _ => isFalse nofun
  | _ :: _, [] => isFalse nofun
  | (key, x) :: xs, (other, y) :: ys =>
    match decEq x y, decEqMembers xs ys with
    | isTrue one, isTrue two => decidable_of_iff (key = other) (by simp [one, two])
    | isFalse one, _ => isFalse (fun same => one (by simp_all))
    | _, isFalse two => isFalse (fun same => two (by simp_all))
termination_by structural members => members

end

instance : DecidableEq Json := decEq

end Json

section Containers

variable {α : Type} [BEq α] [PartialEquivBEq α]

private theorem list_symm : ∀ xs ys : List α, (xs == ys) = true → (ys == xs) = true
  | [], [], _ => rfl
  | [], _ :: _, equal => by cases equal
  | _ :: _, [], equal => by cases equal
  | x :: xs, y :: ys, equal => by
      simp only [List.cons_beq_cons, Bool.and_eq_true] at equal ⊢
      exact ⟨BEq.symm equal.1, list_symm xs ys equal.2⟩

private theorem list_trans : ∀ xs ys zs : List α,
    (xs == ys) = true → (ys == zs) = true → (xs == zs) = true
  | [], [], _, _, second => second
  | [], _ :: _, _, first, _ => by cases first
  | _ :: _, [], _, first, _ => by cases first
  | _ :: _, _ :: _, [], _, second => by cases second
  | x :: xs, y :: ys, z :: zs, first, second => by
      simp only [List.cons_beq_cons, Bool.and_eq_true] at first second ⊢
      exact ⟨BEq.trans first.1 second.1, list_trans xs ys zs first.2 second.2⟩

instance partialEquivBEqList : PartialEquivBEq (List α) where
  symm {xs ys} := list_symm xs ys
  trans {xs ys zs} := list_trans xs ys zs

instance partialEquivBEqOption : PartialEquivBEq (Option α) where
  symm {x y} := by
    cases x <;> cases y <;> simp only [Option.none_beq_some, Option.some_beq_none,
      Option.some_beq_some, Bool.false_eq_true, imp_self]
    exact BEq.symm
  trans {x y z} := by
    cases x <;> cases y <;> cases z <;> simp
    exact BEq.trans

end Containers

end DeclarativeForm
