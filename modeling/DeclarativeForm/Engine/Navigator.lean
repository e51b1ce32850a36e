/-!
The position among the steps of a wizard. There is always at least one step, and the position is
one of them.
-/

set_option autoImplicit false

namespace DeclarativeForm

structure Navigator where
  current : Nat
  total : Nat
  inRange : current < total

inductive Transition
  | moved (origin target : Nat)
  /-- The current step has this many errors. -/
  | blocked (errors : Nat)
  /-- There is no further step. -/
  | boundary
deriving DecidableEq, Repr

namespace Navigator

/-- The first of some steps, or of one step if there are none. -/
def ofTotal (total : Nat) : Navigator := ⟨0, max total 1, by omega⟩

def isFirst (navigator : Navigator) : Bool := navigator.current == 0

def isLast (navigator : Navigator) : Bool := navigator.current + 1 == navigator.total

def advance (navigator : Navigator) : Navigator × Transition :=
  if next : navigator.current + 1 < navigator.total then
    (⟨navigator.current + 1, navigator.total, next⟩,
      .moved navigator.current (navigator.current + 1))
  else (navigator, .boundary)

def retreat (navigator : Navigator) : Navigator × Transition :=
  if navigator.isFirst then (navigator, .boundary)
  else
    (⟨navigator.current - 1, navigator.total,
        Nat.lt_of_le_of_lt (Nat.sub_le _ _) navigator.inRange⟩,
      .moved navigator.current (navigator.current - 1))

def reset (navigator : Navigator) : Navigator :=
  ⟨0, navigator.total, Nat.lt_of_le_of_lt (Nat.zero_le _) navigator.inRange⟩

end Navigator

end DeclarativeForm
