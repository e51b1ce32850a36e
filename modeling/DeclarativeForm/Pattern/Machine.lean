import DeclarativeForm.Pattern.Program
import DeclarativeForm.Pattern.Verdict

/-!
Running a program on a text. A run keeps a stack of choices not yet taken, each with all that was
known when it was put off. A failed step takes up the latest choice, and a run ends when there is
none, when the program is through, or when too many choices were taken up.
-/

set_option autoImplicit false

namespace DeclarativeForm.Pattern

/-- What a run knows at a place: the slots, and the heights that the stack of choices had where the
atomic parts around the place began. -/
structure Choice where
  address : Nat
  place : Nat
  slots : Array (Option Nat)
  heights : List Nat
deriving Repr

/-- A run: where it is, the choices put off with the latest one first, their number, and how often
one was taken up. -/
structure Run extends Choice where
  choices : List Choice
  height : Nat
  retries : Nat

namespace Run

/-- A run takes up at most this many choices. -/
def retryLimit : Nat := 1000000

/-- A run makes at most this many steps. -/
def stepLimit : Nat := 1000000000

def next (run : Run) : Run := { run with address := run.address + 1 }

/-- Goes on with the next instruction at another place. -/
def moveTo (run : Run) (place : Nat) : Run := { run with address := run.address + 1, place }

def goTo (run : Run) (address : Nat) : Run := { run with address }

def slot (run : Run) (index : Nat) : Option Nat := (run.slots[index]?).join

def setSlot (run : Run) (index : Nat) (value : Option Nat) : Run :=
  { run with slots := run.slots.setIfInBounds index value }

/-- Puts off the choice to go on at an address. -/
def putOff (run : Run) (address : Nat) : Run :=
  { run with
    choices := { run.toChoice with address } :: run.choices
    height := run.height + 1 }

/-- Sets the slots of groups to what was found for them, and clears those of the others. -/
def setGroups (run : Run) (groups : List Nat) (found : List (Nat × Nat × Nat)) : Run :=
  groups.foldl
    (fun run group =>
      let bounds := found.lookup group
      (run.setSlot (2 * group) (bounds.map (·.1))).setSlot (2 * group + 1) (bounds.map (·.2)))
    run

def groupText (run : Run) (text : Array Char) (group : Nat) : Option (List Char) := do
  let start ← run.slot (2 * group)
  let past ← run.slot (2 * group + 1)
  guard (start ≤ past)
  pure (text.extract start past).toList

/-- Drops choices up to the latest one that goes on at an address. -/
def dropChoices (run : Run) (address : Nat) : Run :=
  let kept := (run.choices.dropWhile fun choice => choice.address ≠ address).drop 1
  { run with
    choices := kept
    height := kept.length }

/-- A round of a repetition, entered or passed by. -/
def enterRound (run : Run) (repetition : Repetition) (count past : Nat) (began : Option Nat) :
    Run :=
  let rounds := (run.slot count).getD 0
  if repetition.most == some rounds then run.goTo past
  else
    let run := run.setSlot count (some (rounds + 1))
    if rounds < repetition.least then run.next
    else
      let run := match began with
        | some began => run.setSlot began (some run.place)
        | none => run
      if repetition.greedy then (run.putOff past).next
      else (run.putOff (run.address + 1)).goTo past

def step (text : Array Char) (run : Run) : Instruction → Option Run
  | .take set => do
    let c ← text[run.place]?
    guard (set.contains c)
    pure (run.moveTo (run.place + 1))
  | .check condition => do
    guard (condition.holds text run.place)
    pure run.next
  | .regular part => do
    let reached ← (part.ends text ⟨run.place, []⟩).head?
    pure ((run.setGroups part.groups reached.groups).moveTo reached.place)
  | .choose first second => some ((run.putOff second).goTo first)
  | .jump address => some (run.goTo address)
  | .save slot => some (run.setSlot slot (some run.place)).next
  | .restore slot => some (run.moveTo ((run.slot slot).getD run.place))
  | .clear slot => some (run.setSlot slot (some 0)).next
  | .round repetition count past => some (run.enterRound repetition count past none)
  | .productiveRound repetition count began past => do
    guard (run.slot count == some 0 || run.slot began != some run.place)
    pure (run.enterRound repetition count past (some began))
  | .stepBack count => do
    guard (count ≤ run.place)
    pure (run.moveTo (run.place - count))
  | .failLook => none
  | .recall group => do
    let wanted ← run.groupText text group
    guard ((text.extract run.place (run.place + wanted.length)).toList = wanted)
    pure (run.moveTo (run.place + wanted.length))
  | .requireGroup group => do
    guard (run.slot (2 * group)).isSome
    pure run.next
  | .beginAtomic => some { run.next with heights := run.height :: run.heights }
  | .endAtomic =>
    match run.heights with
    | [] => some run.next
    | height :: heights =>
      some { run.next with
        heights
        choices := run.choices.drop (run.height - height)
        height := min run.height height }
  | .atSearchStart => do
    guard (run.place = 0)
    pure run.next

/-- Takes up the latest choice, if there is one and not too many were taken up before. -/
def retry (run : Run) : Except Verdict Run :=
  match run.choices with
  | [] => .error .absent
  | choice :: choices =>
    if retryLimit ≤ run.retries then .error .gaveUp
    else
      .ok
        { choice with
          choices
          height := run.height - 1
          retries := run.retries + 1 }

def afterFailure (run : Run) (instruction : Instruction) : Except Verdict Run :=
  match instruction with
  | .failLook => (run.dropChoices (run.address + 1)).retry
  | _ => run.retry

def verdict (program : Program) (text : Array Char) : Nat → Run → Verdict
  | 0, _ => .gaveUp
  | steps + 1, run =>
    match program.instructions[run.address]? with
    | none => .found
    | some instruction =>
      match run.step text instruction with
      | some run => verdict program text steps run
      | none =>
        match run.afterFailure instruction with
        | .ok run => verdict program text steps run
        | .error verdict => verdict

end Run

def Program.run (program : Program) (text : Array Char) : Verdict :=
  Run.verdict program text Run.stepLimit
    ⟨⟨0, 0, Array.replicate program.slots none, []⟩, [], 0, 0⟩

end DeclarativeForm.Pattern
