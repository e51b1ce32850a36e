import DeclarativeForm.Visibility
import Mathlib.Data.List.Perm.Basic

/-!
The logic of condition groups. A group depends on which conditions are in it and not on their order
or number. Equality, membership and truth have opposites: of an operator and its opposite exactly
one holds of a value, whether the value is there or not and whatever the operand is. So the group of
the opposite conditions, joined the other way, holds exactly where the group does not.
-/

set_option autoImplicit false

namespace DeclarativeForm

namespace Operator

/-- An operator that has an opposite. Orders have none, since of two values that do not compare
neither is less. -/
def isPaired : Operator → Bool
  | eq | neq | isIn | notIn | isTruthy | isFalsy => true
  | gt | lt | gte | lte | unknown _ => false

def opposite : Operator → Operator
  | eq => neq
  | neq => eq
  | isIn => notIn
  | notIn => isIn
  | isTruthy => isFalsy
  | isFalsy => isTruthy
  | other => other

end Operator

def Logic.opposite : Logic → Logic
  | all => any
  | any => all

def Condition.opposite (condition : Condition) : Condition :=
  { condition with operator := condition.operator.opposite }

def ConditionGroup.opposite (group : ConditionGroup) : ConditionGroup :=
  ⟨group.conditions.map Condition.opposite, group.logic.opposite⟩

namespace Condition

variable {condition : Condition}

/-- Of a condition and its opposite exactly one holds, of an absent value too. -/
theorem holdsOf_opposite (paired : condition.operator.isPaired = true) (actual : Option Json) :
    condition.opposite.holdsOf actual = !condition.holdsOf actual := by
  obtain ⟨field, operator, value⟩ := condition
  cases operator with
  | eq => rfl
  | neq => exact (Bool.not_not _).symm
  | isIn =>
      cases value <;> rfl
  | notIn =>
      cases value with
      | array candidates => exact (Bool.not_not _).symm
      | _ => rfl
  | isTruthy => rfl
  | isFalsy => exact (Bool.not_not _).symm
  | gt | lt | gte | lte | unknown => cases paired

theorem holds_opposite (paired : condition.operator.isPaired = true) (scope : Scope) :
    condition.opposite.holds scope = !condition.holds scope :=
  holdsOf_opposite paired _

end Condition

namespace ConditionGroup

theorem holds_all_iff (conditions : List Condition) (scope : Scope) :
    holds ⟨conditions, .all⟩ scope = true ↔ ∀ condition ∈ conditions, condition.holds scope = true :=
  List.all_eq_true

theorem holds_any_iff (conditions : List Condition) (scope : Scope) :
    holds ⟨conditions, .any⟩ scope = true ↔ ∃ condition ∈ conditions, condition.holds scope = true :=
  List.any_eq_true

variable {group : ConditionGroup}

/-- Groups of the same conditions hold alike, in whatever order and however often they are listed. -/
theorem holds_of_same_members {conditions : List Condition}
    (same : ∀ condition, condition ∈ conditions ↔ condition ∈ group.conditions) (scope : Scope) :
    holds { group with conditions } scope = group.holds scope := by
  obtain ⟨others, logic⟩ := group
  rw [Bool.eq_iff_iff]
  cases logic with
  | all =>
      rw [holds_all_iff, holds_all_iff]
      exact forall_congr' fun condition => imp_congr_left (same condition)
  | any =>
      rw [holds_any_iff, holds_any_iff]
      exact exists_congr fun condition => and_congr_left' (same condition)

theorem holds_opposite
    (paired : ∀ condition ∈ group.conditions, condition.operator.isPaired = true) (scope : Scope) :
    group.opposite.holds scope = !group.holds scope := by
  obtain ⟨conditions, logic⟩ := group
  have turned : conditions.map (fun condition => condition.opposite.holds scope) =
      conditions.map fun condition => !condition.holds scope :=
    List.map_congr_left fun condition member =>
      Condition.holds_opposite (paired condition member) scope
  cases logic with
  | all =>
      calc (conditions.map Condition.opposite).any (·.holds scope)
          = (conditions.map fun condition => condition.opposite.holds scope).any id := by
            rw [List.any_map, List.any_map]
            rfl
        _ = (conditions.map fun condition => !condition.holds scope).any id := by rw [turned]
        _ = !conditions.all (·.holds scope) := by
            rw [List.any_map, List.not_all_eq_any_not]
            rfl
  | any =>
      calc (conditions.map Condition.opposite).all (·.holds scope)
          = (conditions.map fun condition => condition.opposite.holds scope).all id := by
            rw [List.all_map, List.all_map]
            rfl
        _ = (conditions.map fun condition => !condition.holds scope).all id := by rw [turned]
        _ = !conditions.any (·.holds scope) := by
            rw [List.all_map, List.not_any_eq_all_not]
            rfl

/-- A group obeys its logic: it depends on nothing but which conditions are in it, and the group of
the opposite conditions, joined the other way, is its negation. -/
theorem holds_obeys_logic (group : ConditionGroup) (scope : Scope) :
    (∀ conditions : List Condition,
      (∀ condition, condition ∈ conditions ↔ condition ∈ group.conditions) →
        holds { group with conditions } scope = group.holds scope) ∧
    ((∀ condition ∈ group.conditions, condition.operator.isPaired = true) →
      group.opposite.holds scope = !group.holds scope) :=
  ⟨fun _ same => holds_of_same_members same scope, fun paired => holds_opposite paired scope⟩

/-- Conditions on a field that is absent, on a text that is no path, and with an operand that is no
list. -/
def malformedConditions : ConditionGroup :=
  ⟨[⟨"city", .eq, .string "rome"⟩, ⟨"a..b", .isTruthy, .null⟩, ⟨"plan", .isIn, .string "pro"⟩], .any⟩

/-- None of them holds, in either order, so all their opposites do. -/
theorem malformedConditions_opposite :
    let scope := Scope.global (.object [("plan", .string "pro")])
    malformedConditions.holds scope = false ∧
      holds ⟨malformedConditions.conditions.reverse, .any⟩ scope = false ∧
      malformedConditions.opposite.holds scope = true := by
  intro scope
  have obeys := malformedConditions.holds_obeys_logic scope
  have fails : malformedConditions.holds scope = false := by decide +kernel
  have reversed := obeys.1 malformedConditions.conditions.reverse fun _ => List.mem_reverse
  have opposite := obeys.2 (by decide)
  rw [fails] at reversed opposite
  exact ⟨fails, reversed, opposite⟩

end ConditionGroup

end DeclarativeForm
