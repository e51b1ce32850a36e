import DeclarativeForm.Json.Basic

/-!
Conditions on form values. A condition compares the value at a path with an operand; conditions
come in flat groups, joined by `and` or `or`.
-/

set_option autoImplicit false

namespace DeclarativeForm

/-- How a condition compares. Names that are not known are kept. -/
inductive Operator
  | eq
  | neq
  | isIn
  | notIn
  | gt
  | lt
  | gte
  | lte
  | isTruthy
  | isFalsy
  | unknown (name : String)
deriving DecidableEq, Repr

namespace Operator

/-- The operator of a name; some have two names. -/
def ofName (name : String) : Operator :=
  if name = "eq" ∨ name = "===" then eq
  else if name = "neq" ∨ name = "!==" then neq
  else if name = "in" ∨ name = "includes" then isIn
  else if name = "notIn" ∨ name = "not-includes" then notIn
  else if name = "gt" then gt
  else if name = "lt" then lt
  else if name = "gte" then gte
  else if name = "lte" then lte
  else if name = "isTruthy" ∨ name = "is-truthy" then isTruthy
  else if name = "isFalsy" ∨ name = "is-falsy" then isFalsy
  else unknown name

end Operator

structure Condition where
  field : String
  operator : Operator
  value : Json
deriving Repr

/-- How the conditions of a group are joined. -/
inductive Logic
  | all
  | any
deriving DecidableEq, Repr

structure ConditionGroup where
  conditions : List Condition
  logic : Logic
deriving Repr

end DeclarativeForm
