import Std.Data.HashMap
import Stepwise.Regex.Expr

/-!
# How large a pattern is

A pattern must not ask for too much room. What counts is the room of two machines
that read a text byte by byte, one forwards and one backwards; they are measured
here and not built. A state takes thirty-two bytes, with more for each branch of a
choice and for each range of bytes in a set.

Most parts of an expression take the same room wherever they stand. A set of
characters beyond ASCII does not: its byte sequences are folded into a graph, in
which equal ends are shared, and the shared ends are looked up in a table with a
fixed number of places, where one entry may push out another. Which place an entry
has depends on the numbers of states, and so these are kept along the way.
-/

namespace Stepwise.Regex

open Unicode (CharSet)

/-- The room that a machine takes so far. -/
structure Room where
  /-- The number of states. The next state has this number. -/
  states : Nat
  /-- What states take beyond their thirty-two bytes. -/
  extra : Nat
deriving Repr, DecidableEq, Inhabited

namespace Room

/-- Ten times two to the twentieth bytes. -/
def limit : Nat := 10 * 1024 * 1024

def empty : Room := ⟨0, 0⟩

/-- Takes more room, if there is so much. -/
def take (r : Room) (states extra : Nat) : Option Room :=
  let r := ⟨r.states + states, r.extra + extra⟩
  if 32 * r.states + r.extra ≤ limit then some r else none

/-- A state with so many ranges of bytes. -/
def addSet (r : Room) (ranges : Nat) : Option Room := r.take 1 (8 * ranges)

/-- A state without more. -/
def addState (r : Room) : Option Room := r.take 1 0

/-- One more branch of a choice. -/
def addBranch (r : Room) : Option Room := r.take 0 4

end Room

/-! ## Byte sequences -/

/-- A range of bytes. -/
abbrev ByteRange := Nat × Nat

/-- The bytes of a code point. -/
def codeBytes (n : Nat) : List Nat :=
  if n < 0x80 then [n]
  else if n < 0x800 then [0xC0 + n / 64, 0x80 + n % 64]
  else if n < 0x10000 then [0xE0 + n / 4096, 0x80 + n / 64 % 64, 0x80 + n % 64]
  else [0xF0 + n / 262144, 0x80 + n / 4096 % 64, 0x80 + n / 64 % 64, 0x80 + n % 64]

/-- Where a range of code points has to be cut, so that its bytes may be chosen
independently of one another: the last code point of the first part. -/
def cut? (low high : Nat) : Option Nat :=
  let byLength := [0x7F, 0x7FF, 0xFFFF].find? fun m => low ≤ m && m < high
  match byLength with
  | some m => some m
  | none =>
    if high < 0x80 then none
    else [64, 4096, 262144].findSome? fun block =>
      if low / block = high / block then none
      else if low % block ≠ 0 then some (low / block * block + (block - 1))
      else if high % block ≠ block - 1 then some (high / block * block - 1)
      else none

/-- The byte sequences of a range of code points, in their order. A range is cut a
dozen times at most. -/
def byteSequences : Nat → Nat → Nat → List (List ByteRange)
  | 0, low, high => [(codeBytes low).zip (codeBytes high)]
  | fuel + 1, low, high =>
    match cut? low high with
    | some m => byteSequences fuel low m ++ byteSequences fuel (m + 1) high
    | none => [(codeBytes low).zip (codeBytes high)]

/-- The byte sequences of a set. -/
def setSequences (s : CharSet) : List (List ByteRange) :=
  s.ranges.toList.flatMap fun r => byteSequences 24 r.1 r.2

/-! ## Sets, forwards -/

/-- Mixes numbers into a key, from which the place in a table follows. -/
def mixKey (key : UInt64) (n : Nat) : UInt64 := (key ^^^ n.toUInt64) * 1099511628211

/-- The key that mixing begins with. -/
def startKey : UInt64 := 14695981039346656037

/-- The ranges of bytes that lead on from a state, each with the state it leads
to. -/
abbrev Ways := Array (Nat × Nat × Nat)

/-- The states that can be shared, by their places. -/
abbrev WayTable := Std.HashMap Nat (Ways × Nat)

def wayPlaces : Nat := 10000

def wayPlace (ways : Ways) : Nat :=
  let key := ways.foldl (fun key w => mixKey (mixKey (mixKey key w.1) w.2.1) w.2.2) startKey
  key.toNat % wayPlaces

/-- The state with some ways on, which may be there already. -/
def addWays (ways : Ways) (r : Room) (t : WayTable) : Option (Nat × Room × WayTable) :=
  let place := wayPlace ways
  let known := t[place]?
  match known.filter fun k => k.1 == ways with
  | some k => some (k.2, r, t)
  | none => do
    let number := r.states
    return (number, ← r.addSet ways.size, t.insert place (ways, number))

/-- A state that may still get ways, and the range of the last way, of which it is
open where it leads. -/
structure OpenState where
  ways : Ways
  last : Option ByteRange

def OpenState.close (s : OpenState) (next : Nat) : Ways :=
  match s.last with
  | some (a, b) => s.ways.push (a, b, next)
  | none => s.ways

/-- Closes the states behind one another on the last sequence: the number of the
first of them. The last one leads to `target`. -/
def closeStates (target : Nat) : List OpenState → Room → WayTable →
    Option (Nat × Room × WayTable)
  | [], r, t => some (target, r, t)
  | s :: rest, r, t => do
    let (next, r, t) ← closeStates target rest r t
    addWays (s.close next) r t

/-- Adds a byte sequence that is greater than all before it. -/
def addSequence (target : Nat) : List OpenState → List ByteRange → Room → WayTable →
    Option (List OpenState × Room × WayTable)
  | s :: rest, b :: more, r, t =>
    if s.last == some b then do
      let (rest, r, t) ← addSequence target rest more r t
      return (s :: rest, r, t)
    else do
      let (next, r, t) ← closeStates target rest r t
      let fresh := more.map fun b => (⟨#[], some b⟩ : OpenState)
      return (⟨s.close next, some b⟩ :: fresh, r, t)
  | states, _, r, t => some (states, r, t)

def addSequences (target : Nat) : List OpenState → List (List ByteRange) → Room →
    WayTable → Option (List OpenState × Room × WayTable)
  | states, [], r, t => some (states, r, t)
  | states, q :: rest, r, t =>
    match addSequence target states q r t with
    | none => none
    | some (states, r, t) => addSequences target states rest r t

/-- The room of a set that is read forwards. -/
def roomForwards (s : CharSet) (r : Room) : Option Room := do
  let target := r.states
  let (states, r, t) ← addSequences target [⟨#[], none⟩] (setSequences s) (← r.addState) {}
  let (_, r, _) ← closeStates target states r t
  return r

/-! ## Sets, backwards -/

/-- Ends of sequences that can be shared, by their places: the state that an end
leads to, its bytes, and the state it begins in. -/
abbrev EndTable := Std.HashMap Nat (Nat × ByteRange × Nat)

def endPlaces : Nat := 1000

/-- Adds a byte sequence, of which the first byte is read last. -/
def addReversed (target : Nat) : List ByteRange → Room → EndTable → Option (Room × EndTable)
  | [], r, t => some (r, t)
  | (a, b) :: rest, r, t =>
    let place := (mixKey (mixKey (mixKey startKey target) a) b).toNat % endPlaces
    let known := t[place]?
    match known.filter fun k => k.1 == target && k.2.1 == (a, b) with
    | some k => addReversed k.2.2 rest r t
    | none =>
      match r.addState with
      | none => none
      | some r' => addReversed r.states rest r' (t.insert place (target, (a, b), r.states))

def addAllReversed (target : Nat) : List (List ByteRange) → Room → EndTable → Option Room
  | [], r, _ => some r
  | q :: rest, r, t =>
    match addReversed target q r t with
    | none => none
    | some (r, t) =>
      match r.addBranch with
      | none => none
      | some r => addAllReversed target rest r t

/-- The room of a set that is read backwards: a choice between its sequences. -/
def roomBackwards (s : CharSet) (r : Room) : Option Room := do
  let r ← r.addState
  addAllReversed r.states (setSequences s) (← r.addState) {}

/-! ## Choices between texts -/

/-- Cuts a list where an element is empty, and leaves that out. -/
def cutAtEmpty {α : Type} : List (List α) → List (List (List α))
  | [] => [[]]
  | x :: rest =>
    match cutAtEmpty rest with
    | [] => []
    | first :: more => if x.isEmpty then [] :: first :: more else (x :: first) :: more

/-- Puts a text to those that begin with the same byte. -/
def groupInsert (b : UInt8) (tail : List UInt8) :
    List (UInt8 × List (List UInt8)) → List (UInt8 × List (List UInt8))
  | [] => [(b, [tail])]
  | (c, tails) :: rest =>
    if b = c then (c, tail :: tails) :: rest else (c, tails) :: groupInsert b tail rest

/-- Texts by their first bytes, with what stands behind them. -/
def groupByHead (texts : List (List UInt8)) : List (UInt8 × List (List UInt8)) :=
  (texts.reverse.foldl
    (fun groups t =>
      match t with
      | [] => groups
      | b :: tail => groupInsert b tail groups) [])

/-- Leaves out all but the first of the empty texts in front. -/
def dropRepeats : List (List UInt8) → List (List UInt8)
  | [] :: rest => [] :: rest.dropWhile List.isEmpty
  | texts => texts

/-- The room of the tree of some texts, in their order. Where a text ends, those
behind it that go on are kept apart from those before it. `fuel` is more than the
length of the longest text. -/
def treeRoom : Nat → List (List UInt8) → Room
  | 0, _ => Room.empty
  | fuel + 1, texts =>
    let runs := (cutAtEmpty (dropRepeats texts)).map groupByHead
    let inner := runs.flatten.map fun g =>
      if g.2.all List.isEmpty then Room.empty else treeRoom fuel g.2
    let own := runs.map fun g =>
      if g.isEmpty then Room.empty
      else if g.length = 1 then ⟨1, 4⟩ else ⟨1, 8 * g.length + 4⟩
    (inner ++ own).foldl (fun a b => ⟨a.states + b.states, a.extra + b.extra⟩)
      ⟨1, 4 * (runs.length - 1)⟩

/-! ## Parts of a machine -/

/-- Adds a part to a machine, and tells whether the part ends in a choice: going on
from there is one more branch of it. -/
abbrev Part := Room → Option (Room × Bool)

namespace Part

/-- So many states in a row. -/
def row (states : Nat) : Part := fun r => (r.take states 0).map (·, false)

/-- Goes on from the end of a part. -/
def link (endsInChoice : Bool) (r : Room) : Option Room :=
  if endsInChoice then r.addBranch else some r

/-- Adds a part again and again, behind one that has been added. -/
def more (p : Part) : Nat → Room → Bool → Option (Room × Bool)
  | 0, r, e => some (r, e)
  | n + 1, r, e =>
    match p r with
    | none => none
    | some (r, e') =>
      match link e r with
      | none => none
      | some r => more p n r e'

/-- A part so many times; if never, one state. -/
def times (p : Part) : Nat → Part
  | 0 => row 1
  | n + 1 => fun r => do
    let (r, e) ← p r
    more p n r e

/-- Parts one behind another. -/
def sequence : List Part → Part
  | [] => row 1
  | p :: rest => fun r => do
    let (r, e) ← p r
    rest.foldlM (fun s q => do
      let (r, e) ← q s.1
      return (← link s.2 r, e)) (r, e)

/-- A part that may be left out. -/
def optional (p : Part) : Part := fun r => do
  let (r, e) ← p (← r.addState)
  let r ← (← (← r.addState).addBranch).addBranch
  return (← link e r, false)

/-- Optional parts, each of which is only reached through the one before. -/
def optionals (p : Part) : Nat → Room → Bool → Option (Room × Bool)
  | 0, r, e => do return (← link e r, false)
  | n + 1, r, e =>
    match (r.addState).bind p with
    | none => none
    | some (r, e') =>
      match (link e r).bind fun r => r.addBranch.bind Room.addBranch with
      | none => none
      | some r => optionals p n r e'

/-- A part from `min` to `max` times. -/
def upTo (p : Part) (min max : Nat) : Part := fun r => do
  let (r, e) ← times p min r
  optionals p (max - min) (← r.addState) e

/-- A part any number of times, where it takes a character each time. -/
def star (p : Part) : Part := fun r => do
  let (r, e) ← p (← r.addState)
  return (← link e (← r.addBranch), true)

/-- A part any number of times, where it may be empty. -/
def starOfEmpty (p : Part) : Part := fun r => do
  let (r, e) ← p r
  let r ← link e (← (← r.addState).addBranch)
  let r ← (← r.addState).addState
  return (← (← (← r.addBranch).addBranch).addBranch, false)

/-- A part at least once. -/
def plus (p : Part) : Part := fun r => do
  let (r, e) ← p r
  let r ← link e (← r.addState)
  return (← r.addBranch, true)

/-- A part at least `min` times, where that is not zero. -/
def atLeast (p : Part) (min : Nat) : Part :=
  if min ≤ 1 then plus p
  else fun r => do
    let (r, e) ← times p (min - 1) r
    let (r, e') ← p r
    let r ← link e (← r.addState)
    return (← (← link e' r).addBranch, true)

/-- A choice between parts. The first two are added before the choice is. -/
def choice : List Part → Part
  | [] => row 1
  | [p] => p
  | p :: q :: rest => fun r => do
    let (r, e) ← p r
    let (r, e') ← q r
    let r ← (← r.addState).addState
    let r ← link e (← r.addBranch)
    let r ← link e' (← r.addBranch)
    let r ← rest.foldlM (fun r p => do
      let (r, e) ← p r
      link e (← r.addBranch)) r
    return (r, false)

end Part

/-! ## Expressions -/

/-- Which way a text is read. -/
inductive Direction where
  | forwards
  | backwards
deriving Repr, DecidableEq

namespace Expr

def text? : Expr → Option (List UInt8)
  | .text cs => some (String.ofList cs).toUTF8.data.toList
  | _ => none

/-- The texts of the branches of a choice, if they are nothing else. -/
def texts? (branches : List Expr) : Option (List (List UInt8)) := branches.mapM text?

/-- The room of a choice between texts: their tree, and the state that all of them
lead to. -/
def textsPart (d : Direction) (texts : List (List UInt8)) : Part := fun r => do
  let texts := if d = .forwards then texts else texts.map List.reverse
  let tree := treeRoom (texts.foldl (fun n t => max n t.length) 0 + 1) texts
  return (← (← r.addState).take tree.states tree.extra, false)

/-- The room of a set of characters. -/
def setPart (d : Direction) (s : CharSet) : Part := fun r => do
  let ranges := s.ranges
  if ranges.all fun b => decide (b.2 < 0x80) then
    return (← (← r.addState).addSet ranges.size, false)
  else
    match d with
    | .forwards => return (← roomForwards s r, false)
    | .backwards => return (← roomBackwards s r, false)

mutual

/-- The room of an expression. Groups take room only forwards. -/
def part (d : Direction) : Expr → Part
  | .empty | .look _ => Part.row 1
  | .text cs => Part.row (cs.foldl (fun n c => n + c.utf8Size) 0)
  | .set s => setPart d s
  | .capture _ sub =>
    match d with
    | .forwards => fun r => do
      let (r, e) ← part d sub (← r.addState)
      return (← Part.link e (← r.addState), false)
    | .backwards => part d sub
  | .repetition min max _ sub =>
    match max with
    | none =>
      if min = 0 then
        if sub.takesChar then (part d sub).star else (part d sub).starOfEmpty
      else (part d sub).atLeast min
    | some m =>
      if min = 0 ∧ m = 1 then (part d sub).optional
      else if min = m then (part d sub).times m
      else (part d sub).upTo min m
  | .concat items =>
    let ps := partList d items
    Part.sequence (if d = .forwards then ps else ps.reverse)
  | .alternation branches =>
    match texts? branches with
    | some texts => textsPart d texts
    | none => Part.choice (partList d branches)

def partList (d : Direction) : List Expr → List Part
  | [] => []
  | x :: rest => part d x :: partList d rest

end

/-! ## Patterns -/

mutual

/-- Whether a match can only be at one end of the text: at the start when it is read
forwards, at the end when it is read backwards. -/
def isAnchored (d : Direction) : Expr → Bool
  | .look .textStart => d == .forwards
  | .look .textEnd => d == .backwards
  | .repetition min _ _ sub => min != 0 && isAnchored d sub
  | .capture _ sub => isAnchored d sub
  | .concat items => (anchoredItems d items).1
  | .alternation branches => allAnchored d branches
  | _ => false

/-- Whether a sequence is anchored, and whether it is always empty. -/
def anchoredItems (d : Direction) : List Expr → Bool × Bool
  | [] => (false, true)
  | x :: rest =>
    let (anchored, blank) := anchoredItems d rest
    match d with
    | .forwards =>
      (isAnchored d x || (alwaysEmpty x && anchored), alwaysEmpty x && blank)
    | .backwards => (anchored || (blank && isAnchored d x), alwaysEmpty x && blank)

def allAnchored (d : Direction) : List Expr → Bool
  | [] => true
  | x :: rest => isAnchored d x && allAnchored d rest

end

/-- The room of the whole machine: in front of the expression it passes over what
comes before a match, unless that is nothing. -/
def machine (d : Direction) (e : Expr) : Option Room := do
  let anchored := isAnchored d e
  let r ←
    if anchored then Room.empty.addState
    else do (← (← Room.empty.addState).addState).addSet 1
  let r ← if anchored then some r else r.addBranch
  let (r, choice) ← part d (.capture 0 e) r
  let r ← Part.link choice (← r.addState)
  if anchored then return r else r.addBranch

/-- How many texts a choice needs, to be looked up and not searched for. -/
def lookupCount : Nat := 3000

/-- Whether a pattern is a choice between so many texts that no machine is made of
it. -/
def isLookup : Expr → Bool
  | .alternation branches => decide (lookupCount ≤ branches.length) && (texts? branches).isSome
  | _ => false

/-- Whether an expression does not ask for too much room. -/
def fits (e : Expr) : Bool :=
  isLookup e || ((machine .forwards e).isSome && (machine .backwards e).isSome)

end Expr

end Stepwise.Regex
