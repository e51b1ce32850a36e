/-!
The status line of a form.
-/

set_option autoImplicit false

namespace DeclarativeForm

/-- What a form is doing, or how its last submission went. -/
inductive StatusKind
  | ready
  | submitting
  | submitted
  | failed
  | issues
deriving DecidableEq, Repr

structure Status where
  kind : StatusKind
  message : String
deriving DecidableEq, Repr

namespace Status

def ready : Status := ⟨.ready, "Ready."⟩

def submitting (message : String) : Status := ⟨.submitting, message⟩

def submitted (message : String) : Status := ⟨.submitted, message⟩

def failed (message : String) : Status := ⟨.failed, message⟩

def issues (count : Nat) : Status := ⟨.issues, toString count ++ " issue(s) remaining"⟩

end Status

end DeclarativeForm
