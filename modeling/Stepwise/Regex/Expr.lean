import Stepwise.Regex.Ast
import Stepwise.Unicode.CharSet

/-!
# What a pattern means

In an expression the flags are gone: classes are sets of characters, each
condition says what it tests, and each repetition which way it leans.

Expressions are kept simple as they are built. A sequence has no sequence, no
empty part and no two neighbouring texts in it; a choice has no choice in it, is a
set where its branches are characters or sets, and has what its branches begin
with in front of it. A repetition of something that is always empty goes round
once at most. And a repetition of no rounds is nothing, so that a group inside it
is not a group of the pattern any more.
-/

namespace Stepwise.Regex

open Unicode (CharSet)

/-- Conditions on a place in the text. -/
inductive Look where
  | textStart
  | textEnd
  /-- At a line; `crlf` says that a carriage return ends lines too. -/
  | lineStart (crlf : Bool)
  | lineEnd (crlf : Bool)
  /-- At a word, whose characters are those of the standard or of ASCII. -/
  | word (test : WordTest) (unicode : Bool)
deriving Repr, DecidableEq, Inhabited

inductive Expr where
  | empty
  /-- Characters that follow one another. -/
  | text (cs : List Char)
  | set (s : CharSet)
  | look (l : Look)
  | repetition (min : Nat) (max : Option Nat) (greedy : Bool) (sub : Expr)
  | capture (index : Nat) (sub : Expr)
  | concat (items : List Expr)
  | alternation (branches : List Expr)
deriving Repr, BEq, Inhabited

namespace Expr

mutual

/-- Whether only the empty text matches. -/
def alwaysEmpty : Expr → Bool
  | .empty | .look _ => true
  | .text cs => cs.isEmpty
  | .set _ => false
  | .repetition _ max _ sub => alwaysEmpty sub || max == some 0
  | .capture _ sub => alwaysEmpty sub
  | .concat items => allEmpty items
  | .alternation branches => allEmpty branches

def allEmpty : List Expr → Bool
  | [] => true
  | x :: rest => alwaysEmpty x && allEmpty rest

end

mutual

/-- The least length of a match. An expression that an empty set keeps from
matching, or may keep from it, has none. -/
def minLength? : Expr → Option Nat
  | .empty | .look _ => some 0
  | .text cs => some cs.length
  | .set s => if s.isEmpty then none else some 1
  | .repetition min _ _ sub => (minLength? sub).map (min * ·)
  | .capture _ sub => minLength? sub
  | .concat items => sumLengths? items
  | .alternation branches => leastLength? branches

def sumLengths? : List Expr → Option Nat
  | [] => some 0
  | x :: rest => do return (← minLength? x) + (← sumLengths? rest)

def leastLength? : List Expr → Option Nat
  | [] => none
  | [x] => minLength? x
  | x :: rest => do return Nat.min (← minLength? x) (← leastLength? rest)

end

/-- Whether every match takes a character, as far as the lengths tell. -/
def takesChar (e : Expr) : Bool := e.minLength?.any (0 < ·)

mutual

/-- The greatest number of a capture group. -/
def groupCount : Expr → Nat
  | .repetition _ _ _ sub => groupCount sub
  | .capture index sub => max index (groupCount sub)
  | .concat items => groupCountItems items
  | .alternation branches => groupCountItems branches
  | _ => 0

def groupCountItems : List Expr → Nat
  | [] => 0
  | x :: rest => max (groupCount x) (groupCountItems rest)

end

/-! ## Building expressions -/

/-- A set of characters. A set with one member is a text. -/
def mkSet (s : CharSet) : Expr :=
  match s.ranges with
  | #[(a, b)] => if a = b then .text [Char.ofNat a] else .set s
  | _ => .set s

/-- A repetition, with the two rules for rounds that do nothing. -/
def mkRepeat (min : Nat) (max : Option Nat) (greedy : Bool) (sub : Expr) : Expr :=
  let (min, max) :=
    if sub.alwaysEmpty then
      (Nat.min min 1, some (match max with | some n => Nat.min n 1 | none => 1))
    else (min, max)
  if min = 0 ∧ max = some 0 then .empty
  else if min = 1 ∧ max = some 1 then sub
  else .repetition min max greedy sub

/-- The parts of an expression that follow one another. -/
def parts : Expr → List Expr
  | .empty => []
  | .concat items => items
  | e => [e]

/-- Joins neighbouring texts. -/
def joinTexts : List Expr → List Expr
  | [] => []
  | .text a :: rest =>
    match joinTexts rest with
    | .text b :: more => .text (a ++ b) :: more
    | more => .text a :: more
  | e :: rest => e :: joinTexts rest

/-- A sequence of parts. -/
def mkConcat (items : List Expr) : Expr :=
  match joinTexts (items.flatMap parts) with
  | [] => .empty
  | [e] => e
  | es => .concat es

/-- The branches of an expression. -/
def branches : Expr → List Expr
  | .alternation es => es
  | e => [e]

def singleChar? : Expr → Option Char
  | .text [c] => some c
  | _ => none

def set? : Expr → Option CharSet
  | .set s => some s
  | _ => none

def items? : Expr → Option (List Expr)
  | .concat es => some es
  | _ => none

/-- How many items two sequences begin with in common. -/
def commonLength : List Expr → List Expr → Nat
  | x :: xs, y :: ys => if x == y then commonLength xs ys + 1 else 0
  | _, _ => 0

/-- How many items all sequences begin with in common. -/
def commonPrefix : List (List Expr) → Nat
  | [] => 0
  | xs :: rest => rest.foldl (fun n ys => Nat.min n (commonLength xs ys)) xs.length

mutual

def size : Expr → Nat
  | .repetition _ _ _ sub => size sub + 1
  | .capture _ sub => size sub + 1
  | .concat items => sizeItems items + 1
  | .alternation branches => sizeItems branches + 1
  | _ => 1

def sizeItems : List Expr → Nat
  | [] => 0
  | x :: rest => size x + sizeItems rest

end

/-- A choice between branches. Taking out what they begin with leaves fewer parts,
so that there is an end to it: `fuel` is the number of parts. -/
def choice : Nat → List Expr → Expr
  | fuel, es =>
    match es.flatMap branches with
    | [e] => e
    | es =>
      match es.mapM singleChar?, es.mapM set?, es.mapM items?, fuel with
      | some cs, _, _, _ => mkSet (CharSet.ofRanges (cs.map fun c => (c.toNat, c.toNat)))
      | none, some sets, _, _ =>
        mkSet (CharSet.ofRanges (sets.flatMap fun s => s.ranges.toList))
      | none, none, some lists, fuel + 1 =>
        match commonPrefix lists with
        | 0 => .alternation es
        | n =>
          let rest := choice fuel (lists.map fun l => mkConcat (l.drop n))
          mkConcat ((lists.headD []).take n ++ [rest])
      | _, _, _, _ => .alternation es

/-- A choice between branches. -/
def mkAlternation (es : List Expr) : Expr := choice (sizeItems es) es

end Expr

end Stepwise.Regex
