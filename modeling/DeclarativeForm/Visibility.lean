import DeclarativeForm.Coercion
import DeclarativeForm.Notice
import DeclarativeForm.Schema.Condition
import DeclarativeForm.Scope

/-!
Whether conditions hold. An absent value compares as null. A list operator whose operand is no
list, and an operator that is not known, give a fixed answer and a notice.
-/

set_option autoImplicit false

namespace DeclarativeForm

/-- Compares two values as numbers; values that are no numbers do not compare. -/
def compareNumbers (compare : Binary64 → Binary64 → Bool) (current operand : Json) : Bool :=
  match current.toNumber?, operand.toNumber? with
  | some x, some y => compare x y
  | _, _ => false

namespace Condition

/-- Whether a condition holds of the value it is about. -/
def holdsOf (condition : Condition) (actual : Option Json) : Bool :=
  let current := actual.getD .null
  match condition.operator with
  | .eq => current.agrees condition.value
  | .neq => !current.agrees condition.value
  | .isIn =>
    match condition.value with
    | .array candidates => candidates.any fun candidate => current.agrees candidate
    | _ => false
  | .notIn =>
    match condition.value with
    | .array candidates => !candidates.any fun candidate => current.agrees candidate
    | _ => true
  | .gt => compareNumbers (fun x y => y.less x) current condition.value
  | .lt => compareNumbers (fun x y => x.less y) current condition.value
  | .gte => compareNumbers (fun x y => y.lessOrEqual x) current condition.value
  | .lte => compareNumbers (fun x y => x.lessOrEqual y) current condition.value
  | .isTruthy => DeclarativeForm.isTruthy actual
  | .isFalsy => !DeclarativeForm.isTruthy actual
  | .unknown _ => true

def holds (condition : Condition) (scope : Scope) : Bool :=
  condition.holdsOf (scope.lookup condition.field)

def notices (condition : Condition) : List Notice :=
  match condition.operator, condition.value.isArray with
  | .isIn, false => [.operandNotList condition.field "in"]
  | .notIn, false => [.operandNotList condition.field "notIn"]
  | .unknown name, _ => [.unknownOperator name condition.field]
  | _, _ => []

end Condition

/-- The elements up to and including the first that satisfies a test. -/
def upToFirst {α : Type} (test : α → Bool) : List α → List α
  | [] => []
  | first :: rest => if test first then [first] else first :: upToFirst test rest

namespace ConditionGroup

def holds (group : ConditionGroup) (scope : Scope) : Bool :=
  match group.logic with
  | .all => group.conditions.all fun condition => condition.holds scope
  | .any => group.conditions.any fun condition => condition.holds scope

/-- The conditions that are checked before the answer is known. -/
def checked (group : ConditionGroup) (scope : Scope) : List Condition :=
  match group.logic with
  | .all => upToFirst (fun condition => !condition.holds scope) group.conditions
  | .any => upToFirst (fun condition => condition.holds scope) group.conditions

def notices (group : ConditionGroup) (scope : Scope) : List Notice :=
  (group.checked scope).flatMap Condition.notices

end ConditionGroup

/-- A node without a condition is always shown. -/
def isShown (showWhen : Option ConditionGroup) (scope : Scope) : Bool :=
  match showWhen with
  | none => true
  | some group => group.holds scope

def shownNotices (showWhen : Option ConditionGroup) (scope : Scope) : List Notice :=
  match showWhen with
  | none => []
  | some group => group.notices scope

end DeclarativeForm
