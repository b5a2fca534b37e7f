import Stepwise.Files.Pattern
import Stepwise.Files.Tree

/-!
# Searching for paths

A pattern for paths is a list of patterns for names, one for each segment. The
search goes from segment to segment and keeps the path by which it came. A
segment without wildcards is followed where it leads, dots included; one with
wildcards is compared with the names in the folder. `**` passes to anything
below the folder, at any depth; at the end of a pattern it stands for the
folders below.

Where names have to be compared, the search looks into a folder, at its files and
folders in the order of their names. If the folder is closed, that is what the
search comes upon in place of them. A path may be found twice.
-/

namespace Stepwise

namespace Files

/-- What one segment of a pattern asks for. -/
inductive Segment where
  | literal (name : String)
  | wild (wildcards : List Wildcard)
  /-- Any number of folders. -/
  | folders
deriving Repr

def Segment.ofWildcards (ws : List Wildcard) : Segment :=
  if ws.contains .folders then .folders
  else
    match literal? ws with
    | some name => .literal name
    | none => .wild ws

/-- Whether a segment stands for a name. -/
def Segment.takes : Segment → String → Bool
  | .literal s, name => s == name
  | .wild ws, name => nameMatches ws name.toList
  | .folders, _ => false

/-- The dots that a segment stands for. Only a segment that begins with a dot
stands for any. -/
def Segment.dots (s : Segment) : List String :=
  match s with
  | .wild (.char '.' :: _) => [".", ".."].filter s.takes
  | _ => []

/-- Several segments for any number of folders are as good as one. -/
def Segment.collapse : List Segment → List Segment
  | .folders :: rest =>
    match collapse rest with
    | .folders :: after => .folders :: after
    | after => .folders :: after
  | s :: rest => s :: collapse rest
  | [] => []

/-- A pattern for paths. -/
structure PathPattern where
  /-- Where the search begins. -/
  start : String
  segments : List Segment
  /-- Only folders are wanted. -/
  foldersOnly : Bool
deriving Repr

/-- Reads a pattern: first as a whole, and then every segment by itself. -/
def PathPattern.ofText (s : String) : Except PatternError PathPattern := do
  let _ ← Wildcard.ofText s
  let slashes := s.toList.takeWhile (· == '/')
  let start := if slashes.isEmpty then "." else "/"
  let rest := s.toList.drop (min 1 slashes.length)
  let texts := Files.segments (String.ofList rest)
  let texts := if texts.getLast? == some "" && 1 < texts.length then texts.dropLast else texts
  let segments ← texts.mapM fun t => do return Segment.ofWildcards (← Wildcard.ofText t)
  return ⟨start, Segment.collapse segments, s.endsWith "/"⟩

end Files

namespace FileTree

open Files

/-- A file or a folder that a search has come to. -/
structure Place where
  path : String
  name : String
  isFolder : Bool

/-- A folder that a search would have to look into, and why it cannot. -/
structure ClosedFolder where
  path : String
  reason : String
deriving Repr, DecidableEq

/-- What a search comes upon, one after the other. -/
abbrev Finds (α : Type) := List (Except ClosedFolder α)

/-- Goes on from all that was found. -/
def Finds.andThen {α β : Type} (found : Finds α) (next : α → Finds β) : Finds β :=
  found.flatMap fun
    | .ok a => next a
    | .error closed => [.error closed]

/-- What was found under names, in the order of the names. -/
def inNameOrder {α : Type} (found : List (String × Finds α)) : Finds α :=
  (found.mergeSort fun x y => decide (x.1 ≤ y.1)).flatMap Prod.snd

mutual

/-- All that is below a folder, at any depth. -/
def descendants (path : String) : FileTree → Finds Place
  | .file _ | .closedFile => []
  | .closedFolder reason => [.error ⟨path, reason⟩]
  | .folder entries => inNameOrder (descendantsIn path entries)

def descendantsIn (path : String) : List (String × FileTree) → List (String × Finds Place)
  | [] => []
  | (name, t) :: rest =>
    let inner := inFolder path name
    (name, .ok ⟨inner, name, t.isFolder⟩ :: descendants inner t) :: descendantsIn path rest

end

/-- The files and folders in a folder. -/
def children (t : FileTree) (path : String) : Finds Place :=
  match t.at? path with
  | some (.closedFolder reason) => [.error ⟨path, reason⟩]
  | found =>
    inNameOrder ((found.getD empty).entries.map fun e =>
      (e.1, [.ok ⟨inFolder path e.1, e.1, e.2.isFolder⟩]))

/-- The dots in a folder that a segment stands for. They need a look into the folder
as names do. -/
def dotsIn (t : FileTree) (s : Segment) (path : String) : List String :=
  match t.at? path with
  | some (.folder _) => s.dots.reverse.map (join path)
  | _ => []

/-- The paths to which segments lead from a path. -/
def searchFrom (t : FileTree) (foldersOnly : Bool) : List Segment → String → Finds String
  | [], path => if foldersOnly && !t.hasFolder path then [] else [.ok path]
  | .literal name :: rest, path =>
    let next := inFolder path name
    let there :=
      if name == "." || name == ".." then t.hasFolder path else (t.at? next).isSome
    if there then searchFrom t foldersOnly rest next else []
  | [.folders], path =>
    Finds.andThen (descendants path ((t.at? path).getD empty)) fun p =>
      if p.isFolder then [.ok p.path] else []
  | .folders :: s :: rest, path =>
    Finds.andThen (descendants path ((t.at? path).getD empty)) fun p =>
      if s.takes p.name then searchFrom t foldersOnly rest p.path else []
  | s :: rest, path =>
    (t.dotsIn s path).flatMap (searchFrom t foldersOnly rest) ++
      Finds.andThen (t.children path) fun p =>
        if s.takes p.name then searchFrom t foldersOnly rest p.path else []

/-- What the search for a pattern comes upon. -/
def search (t : FileTree) (p : PathPattern) : Finds String :=
  t.searchFrom p.foldersOnly p.segments p.start

end FileTree

end Stepwise
