import DeclarativeForm.Pattern.Regular

/-!
Programs for the patterns that are not regular. A pattern is laid out as a list of instructions;
the regular parts whose choices need not be taken back become one instruction each. A block of
instructions is laid out from an address, and is entered at its first instruction and left past
its last one.
-/

set_option autoImplicit false

namespace DeclarativeForm.Pattern

/-- One step of a program. Addresses are those of instructions; slots hold places and counts. The
slots `2 * n` and `2 * n + 1` hold the start and the end of the group `n`. -/
inductive Instruction
  | take (set : CharSet)
  | check (condition : Assertion)
  /-- Goes where a regular part goes first, and sets its groups. -/
  | regular (part : Expr)
  /-- Goes to the first address, and to the second one if that fails. -/
  | choose (first second : Nat)
  | jump (address : Nat)
  | save (slot : Nat)
  | restore (slot : Nat)
  | clear (slot : Nat)
  /-- Enters a round of a repetition, or goes to the address past it. -/
  | round (repetition : Repetition) (count past : Nat)
  /-- As `round`, for bodies that may match nothing: fails if the place is where the latest round
  that was not asked for began. -/
  | productiveRound (repetition : Repetition) (count began past : Nat)
  | stepBack (count : Nat)
  /-- Drops the choices up to the one that leads past this instruction, and fails. -/
  | failLook
  | recall (group : Nat)
  | requireGroup (group : Nat)
  | beginAtomic
  | endAtomic
  | atSearchStart
deriving Repr, Inhabited

abbrev Block := List Instruction

/-- Laying out blocks. The state is the number of slots in use; a part without a meaning has no
block. -/
abbrev Layout := StateT Nat Option

namespace Layout

def newSlot : Layout Nat := modifyGet fun slots => (slots, slots + 1)

/-- A choice to enter or to leave a block, by preference. -/
def enterOrLeave (greedy : Bool) (enter leave : Nat) : Instruction :=
  if greedy then .choose enter leave else .choose leave enter

/-- One instruction for regular parts in a row. -/
def regular (parts : List Expr) : Layout Block :=
  if parts.isEmpty then pure []
  else if (Expr.concat parts).isMeaningful then pure [.regular (.concat parts)]
  else failure

/-- Puts a block that looks around at an address: it goes back by the length of the block, if it
looks behind. -/
def lookAround (behind negated : Bool) (address length : Nat) (block : Block) : Layout Block := do
  let block := if behind then .stepBack length :: block else block
  if negated then
    pure (.choose (address + 1) (address + block.length + 2) :: block ++ [.failLook])
  else
    let slot ← newSlot
    pure (.save slot :: block ++ [.restore slot])

def lookAddress (behind : Bool) (address : Nat) : Nat :=
  if behind then address + 2 else address + 1

end Layout

namespace Expr

/-- How many parts at the start are regular and of one length. -/
def steadyCount (referenced : List Nat) (parts : List Expr) : Nat :=
  (parts.takeWhile fun part => part.hasOneLength && part.isRegular referenced).length

/-- How many parts at the end can be left to one instruction. If choices may have to be taken back,
these are of one length. -/
def finalCount (referenced : List Nat) (revisable : Bool) (parts : List Expr) : Nat :=
  if revisable then steadyCount referenced parts.reverse
  else (parts.reverse.takeWhile (isRegular referenced)).length

mutual

/-- Lays out a part at an address. A part is revisable if what follows it may ask for another
choice in it. -/
def layout (referenced : List Nat) (revisable : Bool) (address : Nat) (part : Expr) :
    Layout Block :=
  if !revisable && part.isRegular referenced then Layout.regular [part]
  else match part with
    | empty | keep => pure []
    | char set => pure [.take set]
    | assertion condition => pure [.check condition]
    | concat parts => do
      let first := steadyCount referenced parts
      let last := finalCount referenced revisable (parts.drop first)
      let start ← Layout.regular (parts.take first)
      let middle ← layoutInTurn referenced (address + start.length) first
        (parts.length - first - last) parts
      let final ← Layout.regular (parts.drop (parts.length - last))
      pure (start ++ middle ++ final)
    | alternatives parts => layoutChoice referenced revisable address parts
    | group index body => do
      let block ← layout referenced revisable (address + 1) body
      pure (.save (2 * index) :: block ++ [.save (2 * index + 1)])
    | repetition body least most greedy =>
      if least = 0 && most == some 1 then do
        let block ← layout referenced revisable (address + 1) body
        pure (Layout.enterOrLeave greedy (address + 1) (address + 1 + block.length) :: block)
      else do
        let revisable := revisable || !body.isRegular referenced
        if most.isNone && body.leastLength = 0 then
          let count ← Layout.newSlot
          let began ← Layout.newSlot
          let block ← layout referenced revisable (address + 2) body
          pure ([.clear count,
            .productiveRound ⟨least, most, greedy⟩ count began (address + block.length + 3)]
            ++ block ++ [.jump (address + 1)])
        else if most.isNone && least = 0 then
          let block ← layout referenced revisable (address + 1) body
          pure (Layout.enterOrLeave greedy (address + 1) (address + block.length + 2) :: block
            ++ [.jump address])
        else if most.isNone && least = 1 then
          let block ← layout referenced revisable address body
          pure (block ++ [Layout.enterOrLeave greedy address (address + block.length + 1)])
        else
          let count ← Layout.newSlot
          let block ← layout referenced revisable (address + 2) body
          pure ([.clear count,
            .round ⟨least, most, greedy⟩ count (address + block.length + 3)]
            ++ block ++ [.jump (address + 1)])
    | look behind negated body =>
      if behind && !body.hasOneLength then
        match body with
        | alternatives parts =>
          if negated then layoutForbidden referenced address parts
          else layoutLookBehind referenced address parts
        | _ => failure
      else do
        let block ← layout referenced false (Layout.lookAddress behind address) body
        Layout.lookAround behind negated address body.leastLength block
    | backreference index => pure [.recall index]
    | groupMatched index => pure [.requireGroup index]
    | conditional condition yes no => do
      let test ← layout referenced revisable (address + 2) condition
      let first ← layout referenced revisable (address + test.length + 3) yes
      let second ← layout referenced revisable (address + test.length + first.length + 4) no
      let past := address + test.length + first.length + second.length + 4
      pure ([.beginAtomic, .choose (address + 2) (address + test.length + first.length + 4)]
        ++ test ++ .endAtomic :: first ++ .jump past :: second)
    | atomic body => do
      let block ← layout referenced false (address + 1) body
      pure (.beginAtomic :: block ++ [.endAtomic])
    | searchStart => pure [.atSearchStart]

/-- Lays out a number of parts one after the other, past those to skip. -/
def layoutInTurn (referenced : List Nat) (address skipped count : Nat) :
    List Expr → Layout Block
  | [] => pure []
  | part :: rest =>
    if skipped ≠ 0 then layoutInTurn referenced address (skipped - 1) count rest
    else if count = 0 then pure []
    else do
      let first ← layout referenced true address part
      let others ← layoutInTurn referenced (address + first.length) 0 (count - 1) rest
      pure (first ++ others)

def layoutChoice (referenced : List Nat) (revisable : Bool) (address : Nat) :
    List Expr → Layout Block
  | [] => pure []
  | [part] => layout referenced revisable address part
  | part :: next :: rest => do
    let first ← layout referenced revisable (address + 1) part
    let others ← layoutChoice referenced revisable (address + first.length + 2) (next :: rest)
    let past := address + first.length + others.length + 2
    pure (.choose (address + 1) (address + first.length + 2) :: first ++ .jump past :: others)

/-- Lays out a choice between parts to find behind a place, each of one length. -/
def layoutLookBehind (referenced : List Nat) (address : Nat) : List Expr → Layout Block
  | [] => pure []
  | [part] => do
    let block ← layout referenced false (address + 2) part
    guard part.hasOneLength
    Layout.lookAround true false address part.leastLength block
  | part :: next :: rest => do
    let block ← layout referenced false (address + 3) part
    guard part.hasOneLength
    let first ← Layout.lookAround true false (address + 1) part.leastLength block
    let others ← layoutLookBehind referenced (address + first.length + 2) (next :: rest)
    let past := address + first.length + others.length + 2
    pure (.choose (address + 1) (address + first.length + 2) :: first ++ .jump past :: others)

/-- Lays out parts of which none may be found behind a place, each of one length. -/
def layoutForbidden (referenced : List Nat) (address : Nat) : List Expr → Layout Block
  | [] => pure []
  | part :: rest => do
    let block ← layout referenced false (address + 2) part
    guard part.hasOneLength
    let first ← Layout.lookAround true true address part.leastLength block
    let others ← layoutForbidden referenced (address + first.length) rest
    pure (first ++ others)

end

end Expr

/-- The instructions of a program and the number of its slots. -/
structure Program where
  instructions : Array Instruction
  slots : Nat
deriving Inhabited

/-- The program that looks for a pattern in a text from its start on: it tries the pattern at each
place in turn. The pattern opens a number of groups; the whole match is the group zero. -/
def Expr.program (referenced : List Nat) (groups : Nat) (pattern : Expr) : Option Program := do
  let start := [.choose 3 1, .take .all, .jump 0, .save 0]
  let (block, slots) ← (pattern.layout referenced true 4).run (2 * groups + 2)
  pure ⟨(start ++ block ++ [Instruction.save 1]).toArray, slots⟩

end DeclarativeForm.Pattern
