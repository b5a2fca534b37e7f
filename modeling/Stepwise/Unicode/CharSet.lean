/-!
# Sets of characters

A set is a list of ranges of code points in ascending order, with a gap between
each two. Every operation ends in sorting and merging ranges (`ofRanges`) or in
cutting gaps out of sorted ones, so that two sets with the same members are the
same list and membership is one binary search. Code points that are no characters
(the surrogates) lie in no set.
-/

namespace Stepwise.Unicode

/-- A set of characters, as ranges of code points with both ends included. -/
structure CharSet where
  /-- Ascending, and no two overlap or touch. -/
  ranges : Array (Nat × Nat)
deriving Repr, DecidableEq, Inhabited

namespace CharSet

/-- The greatest code point. -/
def maxCode : Nat := 0x10FFFF

/-- Joins ranges that overlap or touch, given in ascending order of their lower
ends. -/
def merge : List (Nat × Nat) → List (Nat × Nat)
  | [] => []
  | r :: rest => go r rest
where
  go (cur : Nat × Nat) : List (Nat × Nat) → List (Nat × Nat)
    | [] => [cur]
    | r :: rest =>
      if r.1 ≤ cur.2 + 1 then go (cur.1, max cur.2 r.2) rest
      else cur :: go r rest

/-- The parts of a range below and above the surrogates. -/
def charParts (r : Nat × Nat) : List (Nat × Nat) :=
  let below := if r.1 < 0xD800 then [(r.1, min r.2 0xD7FF)] else []
  let above := if 0xDFFF < r.2 then [(max r.1 0xE000, r.2)] else []
  below ++ above

/-- The set covered by some ranges in any order. -/
def ofRanges (rs : List (Nat × Nat)) : CharSet :=
  ⟨(merge ((rs.flatMap charParts).mergeSort fun a b => decide (a.1 ≤ b.1))).toArray⟩

/-- The set with no members. -/
def empty : CharSet := ⟨#[]⟩

/-- The set of all characters. -/
def all : CharSet := ofRanges [(0, maxCode)]

/-- The set with one member. -/
def singleton (c : Char) : CharSet := ⟨#[(c.toNat, c.toNat)]⟩

def isEmpty (s : CharSet) : Bool := s.ranges.isEmpty

/-- Looks for the range that holds `n` between the positions `lo` and `hi`. -/
def search (ranges : Array (Nat × Nat)) (n : Nat) : Nat → Nat → Nat → Bool
  | 0, _, _ => false
  | fuel + 1, lo, hi =>
    if lo < hi then
      let mid := (lo + hi) / 2
      match ranges[mid]? with
      | none => false
      | some (a, b) =>
        if n < a then search ranges n fuel lo mid
        else if b < n then search ranges n fuel (mid + 1) hi
        else true
    else false

/-- Whether a code point lies in the set. Halving `size` ranges ends after
`size` steps at the latest. -/
def containsCode (s : CharSet) (n : Nat) : Bool :=
  search s.ranges n (s.ranges.size + 1) 0 s.ranges.size

/-- Whether a character lies in the set. -/
def contains (s : CharSet) (c : Char) : Bool := s.containsCode c.toNat

def union (s t : CharSet) : CharSet :=
  ofRanges (s.ranges.toList ++ t.ranges.toList)

/-- The gaps between ranges, from `start` on. -/
def gaps (start : Nat) : List (Nat × Nat) → List (Nat × Nat)
  | [] => if start ≤ maxCode then [(start, maxCode)] else []
  | (a, b) :: rest =>
    if start < a then (start, a - 1) :: gaps (b + 1) rest else gaps (b + 1) rest

/-- All characters that are not in the set. -/
def complement (s : CharSet) : CharSet :=
  ⟨((gaps 0 s.ranges.toList).flatMap charParts).toArray⟩

/-- The members of both sets: what is in neither complement. -/
def inter (s t : CharSet) : CharSet :=
  (s.complement.union t.complement).complement

def diff (s t : CharSet) : CharSet := s.inter t.complement

/-- The members of exactly one of the two sets. -/
def symmDiff (s t : CharSet) : CharSet := (s.union t).diff (s.inter t)

/-- The value of a lower-case hexadecimal digit. -/
def hexDigit? (c : Char) : Option Nat :=
  if '0' ≤ c ∧ c ≤ '9' then some (c.toNat - 48)
  else if 'a' ≤ c ∧ c ≤ 'f' then some (c.toNat - 87)
  else none

/-- The characters of a table written over several lines. -/
def tableChars (table : String) : List Char :=
  table.toList.filter fun c => c != ' ' && c != '\n'

/-- The words of a table written over several lines. -/
def tableWords (table : String) : List String :=
  ((table.map fun c => if c == '\n' then ' ' else c).splitOn " ").filter fun w => !w.isEmpty

/-- Reads a table of ranges: hexadecimal code points with blanks between them, two
of them joined by a hyphen being the ends of a range. -/
def ofTable (table : String) : CharSet :=
  ofRanges (go none 0 false table.toList)
where
  /-- `low` is the lower end that a hyphen has closed, `n` the number being
  read, and `some` says whether it has a digit yet. -/
  go (low : Option Nat) (n : Nat) (started : Bool) : List Char → List (Nat × Nat)
    | [] => if started then [(low.getD n, n)] else []
    | c :: rest =>
      match hexDigit? c with
      | some d => go low (n * 16 + d) true rest
      | none =>
        if c == '-' then go (some n) 0 false rest
        else if started then (low.getD n, n) :: go none 0 false rest
        else go none 0 false rest

end CharSet

end Stepwise.Unicode
