import DeclarativeForm.Path.Access
import DeclarativeForm.Path.Reader

/-!
The values a node can see. A path is looked up in the items that enclose the node, from the
innermost outward, and then in the whole form.
-/

set_option autoImplicit false

namespace DeclarativeForm

/-- The whole form, and the enclosing items from the innermost outward. -/
structure Scope where
  root : Json
  items : List Json
deriving Repr

namespace Scope

/-- The scope of a node outside all items. -/
def global (root : Json) : Scope := ⟨root, []⟩

/-- The scope of a node inside items, given by their paths from the outermost inward. Items that
are not there are left out. -/
def within (root : Json) (items : List FieldPath) : Scope :=
  ⟨root, items.reverse.filterMap fun path => path.get? root⟩

def item (scope : Scope) : Option Json := scope.items.head?

def find? (scope : Scope) (path : FieldPath) : Option Json :=
  (scope.items.findSome? path.get?).or (path.get? scope.root)

/-- The first value found at the path of a text; a text that is no path finds nothing. -/
def lookup (scope : Scope) (text : String) : Option Json :=
  match FieldPath.parse text with
  | .ok path => scope.find? path
  | .error _ => none

def lookupOrNull (scope : Scope) (text : String) : Json := (scope.lookup text).getD .null

end Scope

end DeclarativeForm
