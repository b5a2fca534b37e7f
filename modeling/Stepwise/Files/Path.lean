/-!
# Paths

A path is a text, and is shown as it was given. Its parts decide where it leads
and how it is ordered: paths are compared part by part and not as texts, so that
the files of a folder stay together.
-/

namespace Stepwise.Files

/-- A part of a path. -/
inductive Part where
  /-- The slash in front of a path. -/
  | root
  /-- A dot in front of a path. -/
  | here
  /-- Two dots. -/
  | above
  | name (s : String)
deriving Repr, DecidableEq

/-- The place of a kind of part in the order. -/
def Part.rank : Part → Nat
  | .root => 0
  | .here => 1
  | .above => 2
  | .name _ => 3

/-- Names are ordered by code points. -/
def Part.lt : Part → Part → Bool
  | .name s, .name t => decide (s < t)
  | p, q => decide (p.rank < q.rank)

/-- What stands between the slashes of a path. -/
def segments (path : String) : List String := path.splitOn "/"

/-- The parts of a path. Empty segments do not count, and a dot counts only in
front. -/
def parts (path : String) : List Part :=
  match segments path with
  | [] => []
  | [s] => (lead s).toList
  | s :: rest => (if s.isEmpty then [.root] else (lead s).toList) ++ rest.filterMap inner
where
  inner (s : String) : Option Part :=
    if s.isEmpty || s == "." then none
    else if s == ".." then some .above
    else some (.name s)
  lead (s : String) : Option Part := if s == "." then some .here else inner s

/-- The order of lists of parts: the first difference decides. -/
def partsLe : List Part → List Part → Bool
  | [], _ => true
  | _ :: _, [] => false
  | p :: ps, q :: qs => if p.lt q then true else if q.lt p then false else partsLe ps qs

/-- Whether one path comes before another, or is of equal rank with it. -/
def pathLe (a b : String) : Bool := partsLe (parts a) (parts b)

/-- A name behind a path. -/
def join (path name : String) : String :=
  if path.isEmpty || path.endsWith "/" then path ++ name else path ++ "/" ++ name

/-- Whether a path leads to the place where it starts, being a dot. -/
def isHere (path : String) : Bool := parts path == [.here]

/-- A name in a folder. -/
def inFolder (folder name : String) : String := if isHere folder then name else join folder name

end Stepwise.Files
