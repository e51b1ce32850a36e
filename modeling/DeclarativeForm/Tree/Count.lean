import DeclarativeForm.Schema.Node

/-!
The bounds on the number of items of a repeatable.
-/

set_option autoImplicit false

namespace DeclarativeForm.Repeatable

/-- The declared message of a bound, or the wording given. -/
def boundMessage (repeatable : Repeatable) (select : RuleSet → Option Rule) (fallback : String) :
    String :=
  match repeatable.rule select with
  | some rule => rule.messageOr fallback
  | none => fallback

def minItemsMessage (repeatable : Repeatable) (least : Nat) : String :=
  repeatable.boundMessage RuleSet.min ("At least " ++ toString least ++ " item(s) required.")

def maxItemsMessage (repeatable : Repeatable) (most : Nat) : String :=
  repeatable.boundMessage RuleSet.max ("No more than " ++ toString most ++ " item(s) allowed.")

/-- Whether a number of items violates the `required` rule. -/
def lacksRequired (repeatable : Repeatable) (count : Nat) : Option Rule :=
  (repeatable.rule RuleSet.required).filter fun rule => rule.isEnabled && count == 0

/-- The error of a number of items: none at all, too few, too many. -/
def countError? (repeatable : Repeatable) (count : Nat) : Option String :=
  let tooFew := match repeatable.minItems with
    | some least => if count < least then some (repeatable.minItemsMessage least) else none
    | none => none
  let tooMany := match repeatable.maxItemCount with
    | some most => if most < count then some (repeatable.maxItemsMessage most) else none
    | none => none
  match repeatable.lacksRequired count with
  | some rule => some (rule.messageOr "Add at least one item.")
  | none => tooFew.or tooMany

end DeclarativeForm.Repeatable
