import Stepwise.Regex.Expr

/-!
# Programs

An expression is compiled into instructions that say where to go on. Compiling
works from the end to the start: `compile e next` appends the instructions of
`e`, which go on at `next` when `e` has matched, and returns where they begin.
A loop needs an instruction to return to before its body is there, so it first
appends one and fills it in later.

The order of the targets of a `split` is the order of preference. A star over
something that may be empty is compiled as an optional plus; that way a round
that takes nothing ends the loop, and the groups keep what they held before it.
-/

namespace Stepwise.Regex

open Unicode (CharSet)

inductive Inst where
  /-- Takes a character of the set. -/
  | chars (s : CharSet) (next : Nat)
  /-- Goes on if the condition holds here. -/
  | look (l : Look) (next : Nat)
  /-- Notes the place in a slot. -/
  | save (slot : Nat) (next : Nat)
  /-- Goes on at each target, the first being preferred. -/
  | split (targets : List Nat)
  | accept
deriving Repr, Inhabited

/-- Instructions, and the one to begin at. -/
structure Program where
  code : Array Inst
  start : Nat
  /-- The number of capture groups. -/
  groups : Nat
deriving Repr, Inhabited

namespace Program

/-- Where some instructions begin, with all instructions so far. -/
abbrev Build := Array Inst × Nat

def emit (code : Array Inst) (i : Inst) : Build :=
  let start := code.size
  (code.push i, start)

/-- Appends the instructions that take some characters one after another. -/
def emitText (code : Array Inst) (next : Nat) (cs : List Char) : Build :=
  cs.foldr (fun c built => emit built.1 (.chars (CharSet.singleton c) built.2)) (code, next)

/-- The targets of a choice between going in and going on. -/
def choice (greedy : Bool) (inside next : Nat) : Inst :=
  .split (if greedy then [inside, next] else [next, inside])

/-- Applies a compiler `n` times in a row, the last time first. -/
def times (body : Array Inst → Nat → Build) : Nat → Array Inst → Nat → Build
  | 0, code, next => (code, next)
  | n + 1, code, next =>
    let (code, start) := body code next
    times body n code start

/-- `n` optional rounds: each may end at `next`, and the ones behind it are only
reached through it. -/
def optional (body : Array Inst → Nat → Build) (greedy : Bool) (exit : Nat) :
    Nat → Array Inst → Nat → Build
  | 0, code, next => (code, next)
  | n + 1, code, next =>
    let (code, start) := body code next
    let (code, fork) := emit code (choice greedy start exit)
    optional body greedy exit n code fork

/-- A round that may be followed by others. Returns where the round begins, and
the choice behind it. -/
def loop (body : Array Inst → Nat → Build) (greedy : Bool) (code : Array Inst) (next : Nat) :
    Array Inst × Nat × Nat :=
  let fork := code.size
  let (code, start) := body (code.push .accept) fork
  (code.setIfInBounds fork (choice greedy start next), start, fork)

/-- A repetition of something that `body` compiles. -/
def repetition (body : Array Inst → Nat → Build) (takesChar : Bool) (min : Nat)
    (max : Option Nat) (greedy : Bool) (code : Array Inst) (next : Nat) : Build :=
  match max with
  | some m =>
    let (code, start) := optional body greedy next (m - min) code next
    times body min code start
  | none =>
    let (code, start, fork) := loop body greedy code next
    if min = 0 then
      if takesChar then (code, fork) else emit code (choice greedy start next)
    else times body (min - 1) code start

mutual

/-- Appends the instructions of an expression. -/
def compile : Expr → Array Inst → Nat → Build
  | .empty, code, next => (code, next)
  | .text cs, code, next => emitText code next cs
  | .set s, code, next => emit code (.chars s next)
  | .look l, code, next => emit code (.look l next)
  | .repetition min max greedy sub, code, next =>
    repetition (compile sub) sub.takesChar min max greedy code next
  | .capture index sub, code, next =>
    let (code, close) := emit code (.save (2 * index + 1) next)
    let (code, start) := compile sub code close
    emit code (.save (2 * index) start)
  | .concat items, code, next => compileItems items code next
  | .alternation branches, code, next =>
    let (code, starts) := compileBranches branches code next
    emit code (.split starts)

def compileItems : List Expr → Array Inst → Nat → Build
  | [], code, next => (code, next)
  | x :: rest, code, next =>
    let (code, start) := compileItems rest code next
    compile x code start

def compileBranches : List Expr → Array Inst → Nat → Array Inst × List Nat
  | [], code, _ => (code, [])
  | x :: rest, code, next =>
    let (code, start) := compile x code next
    let (code, starts) := compileBranches rest code next
    (code, start :: starts)

end

/-- The program of an expression. -/
def ofExpr (e : Expr) : Program :=
  let (code, start) := compile e #[.accept] 0
  ⟨code, start, e.groupCount⟩

end Program

end Stepwise.Regex
