/-!
What comes of matching a text against a pattern, and what does the matching.
-/

set_option autoImplicit false

namespace DeclarativeForm.Pattern

/-- The outcome of looking for a pattern in a text. -/
inductive Verdict
  | found
  | absent
  /-- The pattern has no meaning. -/
  | invalid
  /-- The search took too many steps. -/
  | gaveUp
deriving DecidableEq, Repr

/-- Looks for a pattern in a text. The text has no part in whether the pattern has a meaning. -/
structure Matcher where
  search (pattern text : String) : Verdict
  search_invalid_congr {pattern text : String} (invalid : search pattern text = .invalid)
    (other : String) : search pattern other = .invalid

end DeclarativeForm.Pattern
