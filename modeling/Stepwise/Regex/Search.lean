import Stepwise.Regex.Flags
import Stepwise.Regex.Program
import Stepwise.Regex.Reader
import Stepwise.Regex.Size

/-!
# Searching a text

All ways of matching are followed at once, one character after the other. The
threads of a place stand in order of preference, and no instruction has two
threads at one place, since the one that came first is preferred for good. So a
search takes time proportional to the text times the program, whatever the
pattern.

A match begins as far left as possible. Among those that begin there the one
that the program prefers is found: when a thread accepts, the threads behind it
are given up, and those before it go on.
-/

namespace Stepwise.Regex

open Unicode (CharSet)

/-- A place in a text: the characters around it, and its distance from the
start. -/
structure Place where
  before : Option Char
  after : Option Char
  position : Nat
deriving Repr

/-- Whether a character may be part of a word. -/
def isWordChar (unicode : Bool) (c : Option Char) : Bool :=
  match c with
  | none => false
  | some c =>
    if unicode then Unicode.wordChar.contains c
    else c.isAlphanum || c == '_'

/-- Whether a condition holds at a place. A carriage return and the line feed
behind it end a line together, so no line begins or ends between them. -/
def Look.holds (p : Place) : Look → Bool
  | .textStart => p.before.isNone
  | .textEnd => p.after.isNone
  | .lineStart false => p.before.isNone || p.before == some '\n'
  | .lineStart true =>
    p.before.isNone || p.before == some '\n' ||
      (p.before == some '\x0d' && p.after != some '\n')
  | .lineEnd false => p.after.isNone || p.after == some '\n'
  | .lineEnd true =>
    p.after.isNone || p.after == some '\x0d' ||
      (p.after == some '\n' && p.before != some '\x0d')
  | .word test unicode =>
    let inside := isWordChar unicode p.before
    let ahead := isWordChar unicode p.after
    match test with
    | .boundary => inside != ahead
    | .notBoundary => inside == ahead
    | .wordStart => !inside && ahead
    | .wordEnd => inside && !ahead
    | .wordStartHalf => !inside
    | .wordEndHalf => !ahead

/-- The places that a thread has noted, with their slots. -/
abbrev Slots := List (Nat × Nat)

/-- Notes a place in a slot, instead of the one that was noted there. -/
def Slots.note (s : Slots) (slot place : Nat) : Slots :=
  (slot, place) :: s.filter fun n => n.1 != slot

structure Thread where
  pc : Nat
  slots : Slots

/-- Follows instructions that take no character, from the threads on a stack in
order of preference. Every instruction is entered once. -/
def Program.follow (p : Program) (place : Place) :
    Nat → List Thread → Array Bool → Array Thread → Array Thread
  | 0, _, _, found => found
  | _, [], _, found => found
  | fuel + 1, t :: rest, seen, found =>
    if seen.getD t.pc true then follow p place fuel rest seen found
    else
      let seen := seen.setIfInBounds t.pc true
      match p.code.getD t.pc .accept with
      | .split targets =>
        follow p place fuel (targets.map (⟨·, t.slots⟩) ++ rest) seen found
      | .save slot next =>
        follow p place fuel
          (⟨next, t.slots.note slot place.position⟩ :: rest) seen found
      | .look l next =>
        if l.holds place then follow p place fuel (⟨next, t.slots⟩ :: rest) seen found
        else follow p place fuel rest seen found
      | .chars .. | .accept => follow p place fuel rest seen (found.push t)

/-- The number of steps that `follow` can take: each instruction is entered once
and puts its targets on the stack. -/
def Program.fuel (p : Program) : Nat :=
  p.code.foldl (fun n i =>
    match i with
    | .split targets => n + targets.length + 1
    | _ => n + 2) 2

/-- Walks through the threads of a place: those that take the next character go
on, and the first that accepts ends the walk with its slots. -/
def Program.advance (p : Program) (c : Option Char) :
    List Thread → List Thread → List Thread × Option Slots
  | [], acc => (acc.reverse, none)
  | t :: rest, acc =>
    match p.code.getD t.pc .accept with
    | .accept => (acc.reverse, some t.slots)
    | .chars s next =>
      match c with
      | some c =>
        if s.contains c then advance p (some c) rest (⟨next, t.slots⟩ :: acc)
        else advance p (some c) rest acc
      | none => advance p none rest acc
    | _ => advance p c rest acc

/-- What a search carries from place to place: the threads that wait there, and
the slots of the best match so far. -/
structure Progress where
  waiting : List Thread
  best : Option Slots

/-- One place of a search. As long as nothing has been found a new thread begins
there, behind all others. -/
def Program.turn (p : Program) (place : Place) (s : Progress) : Progress :=
  let fresh : List Thread :=
    if s.best.isNone then [⟨p.start, []⟩] else []
  let threads := p.follow place (p.fuel + s.waiting.length) (s.waiting ++ fresh)
    (Array.replicate p.code.size false) #[]
  let (next, hit) := p.advance place.after threads.toList []
  ⟨next, hit <|> s.best⟩

/-- Goes through a text from a place on. Once something has been found and no
thread is left, the rest of the text cannot change the answer. -/
def Program.scan (p : Program) (before : Option Char) (position : Nat) (s : Progress) :
    List Char → Option Slots
  | [] => (p.turn ⟨before, none, position⟩ s).best
  | c :: rest =>
    let s := p.turn ⟨before, some c, position⟩ s
    if s.waiting.isEmpty && s.best.isSome then s.best
    else scan p (some c) (position + 1) s rest

/-- The slots of the preferred match, if there is a match. -/
def Program.search (p : Program) (text : List Char) : Option Slots :=
  p.scan none 0 ⟨[], none⟩ text

end Regex

/-- A pattern that can be searched for. -/
structure Regex where
  pattern : String
  program : Regex.Program
deriving Inhabited

namespace Regex

/-- The search for a pattern, unless it is no pattern or asks for too much room. -/
def compile? (pattern : String) : Option Regex := do
  let e ← (← Ast.parse pattern).toExpr
  if e.fits then return ⟨pattern, Program.ofExpr e⟩ else none

/-- The texts of the groups of the preferred match, in the order of their
numbers; a group that took no part has none. -/
def captures (r : Regex) (text : String) : Option (List (Option String)) :=
  let cs := text.toList
  (r.program.search cs).map fun slots =>
    (List.range r.program.groups).map fun i =>
      match slots.lookup (2 * (i + 1)), slots.lookup (2 * (i + 1) + 1) with
      | some a, some b => some (String.ofList ((cs.drop a).take (b - a)))
      | _, _ => none

end Stepwise.Regex
