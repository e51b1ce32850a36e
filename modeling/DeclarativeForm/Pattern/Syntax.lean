import DeclarativeForm.Pattern.CharSet

/-!
The structure of a pattern, and what can be said of a part of it without a text: how short a match
of it can be, whether all of its matches have one length, and whether it is regular. A regular part
asks only for characters, ends of lines and ends of the text; the other parts look around, look
back at a group, or forbid that a choice is taken again.
-/

set_option autoImplicit false

namespace DeclarativeForm.Pattern

/-- A condition on a place between two characters. -/
inductive Assertion
  | textStart
  | textEnd
  | lineStart
  | lineEnd
  | wordBoundary
  | notWordBoundary
  | wordStart
  | wordEnd
deriving DecidableEq, Repr

/-- A part of a pattern. Groups are numbered from one, in the order in which they are opened. -/
inductive Expr
  | empty
  | char (set : CharSet)
  | assertion (assertion : Assertion)
  | concat (parts : List Expr)
  | alternatives (parts : List Expr)
  | group (index : Nat) (body : Expr)
  /-- The body again and again; without a greatest number there is no end to it. A greedy
  repetition prefers to go on. -/
  | repetition (body : Expr) (least : Nat) (most : Option Nat) (greedy : Bool)
  | look (behind negated : Bool) (body : Expr)
  /-- The text of a group once more. -/
  | backreference (group : Nat)
  /-- Nothing, where a group has matched. -/
  | groupMatched (group : Nat)
  | conditional (condition yes no : Expr)
  /-- The first way to match the body, and no other. -/
  | atomic (body : Expr)
  /-- Sets the start of the match, which has no part in whether there is one. -/
  | keep
  /-- The place where the search began. -/
  | searchStart
deriving Inhabited, Repr

namespace Assertion

/-- Whether a regular part may hold the condition: it may if it does not speak of words. -/
def isRegular : Assertion → Bool
  | textStart | textEnd | lineStart | lineEnd => true
  | wordBoundary | notWordBoundary | wordStart | wordEnd => false

/-- Whether the condition holds at a place of a text. -/
def holds (text : Array Char) (place : Nat) : Assertion → Bool
  | textStart => place == 0
  | textEnd => place == text.size
  | lineStart => place == 0 || text[place - 1]? == some '\n'
  | lineEnd => place == text.size || text[place]? == some '\n'
  | wordBoundary => wordBefore != wordAfter
  | notWordBoundary => wordBefore == wordAfter
  | wordStart => !wordBefore && wordAfter
  | wordEnd => wordBefore && !wordAfter
where
  wordBefore : Bool := place != 0 && (text[place - 1]?).any CharSet.wordCharacters.contains
  wordAfter : Bool := (text[place]?).any CharSet.wordCharacters.contains

end Assertion

namespace Expr

mutual

/-- The length of the shortest match, as far as the structure tells. -/
def leastLength : Expr → Nat
  | empty | assertion _ | look _ _ _ | backreference _ | groupMatched _ | keep | searchStart => 0
  | char _ => 1
  | concat parts => leastSum parts
  | alternatives parts => leastOf parts
  | group _ body => leastLength body
  | repetition body least _ _ => leastLength body * least
  | conditional condition yes no =>
    leastLength condition + min (leastLength yes) (leastLength no)
  | atomic body => leastLength body

/-- The least length of parts in a row. -/
def leastSum : List Expr → Nat
  | [] => 0
  | part :: rest => leastLength part + leastSum rest

/-- The least of the least lengths of parts. -/
def leastOf : List Expr → Nat
  | [] => 0
  | [part] => leastLength part
  | part :: next :: rest => min (leastLength part) (leastOf (next :: rest))

end

mutual

/-- Whether all matches have one length, as far as the structure tells. -/
def hasOneLength : Expr → Bool
  | empty | char _ | assertion _ | look _ _ _ | groupMatched _ | keep | searchStart => true
  | backreference _ => false
  | concat parts => haveOneLength parts
  | alternatives parts => haveSameLength parts
  | group _ body => hasOneLength body
  | repetition body least most _ => hasOneLength body && most == some least
  | conditional condition yes no =>
    hasOneLength condition && hasOneLength yes && hasOneLength no
      && leastLength condition + leastLength yes == leastLength no
  | atomic body => hasOneLength body

def haveOneLength : List Expr → Bool
  | [] => true
  | part :: rest => hasOneLength part && haveOneLength rest

/-- Whether parts have one length, and the same. -/
def haveSameLength : List Expr → Bool
  | [] => true
  | [part] => hasOneLength part
  | part :: next :: rest =>
    hasOneLength part && leastLength part == leastLength next && haveSameLength (next :: rest)

end

mutual

/-- Whether a part is regular. A group whose text is asked for again is not: it may have to match in
another way. -/
def isRegular (referenced : List Nat) : Expr → Bool
  | empty | char _ => true
  | assertion condition => condition.isRegular
  | concat parts => areRegular referenced parts
  | alternatives parts => areRegular referenced parts
  | group index body => isRegular referenced body && !referenced.contains index
  | repetition body _ _ _ => isRegular referenced body
  | look _ _ _ | backreference _ | groupMatched _ | conditional _ _ _ | atomic _ | keep
  | searchStart => false

def areRegular (referenced : List Nat) : List Expr → Bool
  | [] => true
  | part :: rest => isRegular referenced part && areRegular referenced rest

end

mutual

def groups : Expr → List Nat
  | empty | char _ | assertion _ | backreference _ | groupMatched _ | keep | searchStart => []
  | concat parts => groupsOfAll parts
  | alternatives parts => groupsOfAll parts
  | group index body => index :: groups body
  | repetition body _ _ _ => groups body
  | look _ _ body => groups body
  | conditional condition yes no => groups condition ++ groups yes ++ groups no
  | atomic body => groups body

def groupsOfAll : List Expr → List Nat
  | [] => []
  | part :: rest => groups part ++ groupsOfAll rest

end

def literal (fold : Bool) (c : Char) : Expr := char (.foldedIf fold (.single c))

/-- The end of the text, or a place with nothing but line feeds after it. -/
def lastEnd : Expr :=
  look false false
    (concat [repetition (char (.single '\n')) 0 none true, assertion .textEnd])

example : hasOneLength (alternatives [char .all, concat [char .all, char .all]]) = false := by
  decide +kernel
example : leastLength (repetition (char .all) 3 none true) = 3 := by decide +kernel

end Expr

end DeclarativeForm.Pattern
