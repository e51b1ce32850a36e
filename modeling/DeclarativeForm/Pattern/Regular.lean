import DeclarativeForm.Pattern.Syntax
import Std.Data.HashSet

/-!
Matching a regular part. From a place of the text, a part reaches other places, which are listed
with the preferred ones first and each of them once: which way a place was reached has no bearing on
what can be reached from there, so the first way is enough. This is what keeps the work within a
power of the length of the text. The parts that are not regular reach nothing here.
-/

set_option autoImplicit false

namespace DeclarativeForm.Pattern

/-- A place reached, and the groups matched on the way with the places where they start and end. -/
structure Reached where
  place : Nat
  groups : List (Nat × Nat × Nat)
deriving Repr, DecidableEq

namespace Reached

/-- Ends a group that was entered at a place. -/
def record (reached : Reached) (group start : Nat) : Reached :=
  { reached with
    groups := (group, start, reached.place) :: reached.groups.filter fun entry => entry.1 ≠ group }

/-- Keeps the first way to reach each place. -/
def distinct (reached : List Reached) : List Reached :=
  (go ∅ reached)
where
  go (seen : Std.HashSet Nat) : List Reached → List Reached
    | [] => []
    | first :: rest =>
      if seen.contains first.place then go seen rest
      else first :: go (seen.insert first.place) rest

end Reached

structure Repetition where
  least : Nat
  most : Option Nat
  greedy : Bool
deriving Repr, DecidableEq

/-- The walk through the iterations of a body: the rounds and places visited, the places at which
the repetition may end, and the ways to reach them, the last one first. -/
structure Walk where
  visited : Std.HashSet (Nat × Nat)
  ended : Std.HashSet Nat
  ends : List Reached

namespace Walk

/-- Lets the repetition end at a place, unless it can already. -/
def finish (walk : Walk) (reached : Reached) : Walk :=
  if walk.ended.contains reached.place then walk
  else
    { walk with
      ended := walk.ended.insert reached.place
      ends := reached :: walk.ends }

/-- Goes on after a number of rounds. The rounds that no limit tells apart count as one. A place
visited in the same round has been walked from, but the repetition may still end there. The first
number bounds the rounds to come. -/
def step (repetition : Repetition) (body : Reached → List Reached) :
    Nat → Nat → Reached → Walk → Walk
  | 0, _, _, walk => walk
  | bound + 1, rounds, reached, walk =>
    let finish (walk : Walk) : Walk :=
      if repetition.least ≤ rounds then walk.finish reached else walk
    let round := if repetition.most.isSome then rounds else min rounds (repetition.least - 1)
    if walk.visited.contains (round, reached.place) then finish walk
    else
      let walk := { walk with visited := walk.visited.insert (round, reached.place) }
      let goOn (walk : Walk) : Walk :=
        if repetition.most.all fun most => decide (rounds < most) then
          (body reached).foldl (fun walk next => step repetition body bound (rounds + 1) next walk)
            walk
        else walk
      if repetition.greedy then finish (goOn walk) else goOn (finish walk)

end Walk

def Repetition.ends (repetition : Repetition) (length : Nat) (body : Reached → List Reached)
    (start : Reached) : List Reached :=
  let bound := repetition.most.getD (repetition.least + length) + 3
  (Walk.step repetition body bound 0 start ⟨∅, ∅, []⟩).ends.reverse

namespace Expr

mutual

/-- The places that a part reaches from a place. -/
def ends (text : Array Char) : Expr → Reached → List Reached
  | empty, start => [start]
  | char set, start =>
    if (text[start.place]?).any set.contains then [{ start with place := start.place + 1 }] else []
  | assertion condition, start => if condition.holds text start.place then [start] else []
  | concat parts, start => endsInTurn text parts start
  | alternatives parts, start => Reached.distinct (endsOfAny text parts start)
  | group index body, start => (ends text body start).map fun reached =>
      reached.record index start.place
  | repetition body least most greedy, start =>
    Repetition.ends ⟨least, most, greedy⟩ text.size (ends text body) start
  | look _ _ _, _ | backreference _, _ | groupMatched _, _ | conditional _ _ _, _ | atomic _, _
  | keep, _ | searchStart, _ => []

/-- The places that parts reach one after the other. -/
def endsInTurn (text : Array Char) : List Expr → Reached → List Reached
  | [], start => [start]
  | part :: rest, start =>
    Reached.distinct ((ends text part start).flatMap fun reached => endsInTurn text rest reached)

/-- The places that one of the parts reaches. -/
def endsOfAny (text : Array Char) : List Expr → Reached → List Reached
  | [], _ => []
  | part :: rest, start => ends text part start ++ endsOfAny text rest start

end

mutual

/-- The room that a part takes when its repetitions are written out. -/
def room : Expr → Nat
  | char set => set.room
  | concat parts => roomOfAll parts
  | alternatives parts => roomOfAll parts + 1
  | group _ body => room body + 2
  | repetition body least none _ => room body * max least 1 + 1
  | repetition body least (some most) _ => (room body + 1) * max least most
  | empty | assertion _ | look _ _ _ | backreference _ | groupMatched _ | conditional _ _ _
  | atomic _ | keep | searchStart => 1

def roomOfAll : List Expr → Nat
  | [] => 0
  | part :: rest => room part + roomOfAll rest

end

mutual

/-- Whether no repetition asks for more rounds than it allows, or for `2 ^ 32` and more. -/
def isWellCounted : Expr → Bool
  | empty | char _ | assertion _ | backreference _ | groupMatched _ | keep | searchStart => true
  | concat parts => areWellCounted parts
  | alternatives parts => areWellCounted parts
  | group _ body => isWellCounted body
  | repetition body least most _ =>
    isWellCounted body && decide (least < Nat.pow 2 32)
      && most.all fun most => decide (least ≤ most ∧ most < Nat.pow 2 32)
  | look _ _ body => isWellCounted body
  | conditional condition yes no =>
    isWellCounted condition && isWellCounted yes && isWellCounted no
  | atomic body => isWellCounted body

def areWellCounted : List Expr → Bool
  | [] => true
  | part :: rest => isWellCounted part && areWellCounted rest

end

/-- A regular part has at most this much room. -/
def roomLimit : Nat := 174762

def isMeaningful (part : Expr) : Bool := part.isWellCounted && decide (part.room ≤ roomLimit)

/-- Whether a regular pattern matches somewhere in a text. -/
def occursIn (text : Array Char) (pattern : Expr) : Bool :=
  (List.range (text.size + 1)).any fun place => !(pattern.ends text ⟨place, []⟩).isEmpty

end Expr

end DeclarativeForm.Pattern
