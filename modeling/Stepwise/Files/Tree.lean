import Stepwise.Files.Path

/-!
# Files and folders

The files that features and configurations are read from, as one tree. A path
leads through it from the folder at the top. Above that folder there is another
one that holds nothing that can be named, and so is the folder at the root.

A path leads somewhere only if each of its segments does: a slash behind the
name of a file leads nowhere, even if nothing follows it.

Not everything that is there may be read. A file may be closed, and so may a
folder, in which case no path leads through it and nobody can tell what it holds.
-/

namespace Stepwise

inductive FileTree where
  | file (bytes : ByteArray)
  | folder (entries : List (String × FileTree))
  /-- A file that cannot be opened. -/
  | closedFile
  /-- A folder that cannot be looked into, and why. -/
  | closedFolder (reason : String)

namespace FileTree

def empty : FileTree := .folder []

def isFile : FileTree → Bool
  | .file _ | .closedFile => true
  | .folder _ | .closedFolder _ => false

def isFolder (t : FileTree) : Bool := !t.isFile

/-- The files and folders in a folder. -/
def entries : FileTree → List (String × FileTree)
  | .folder entries => entries
  | _ => []

/-- Puts a file or a folder where the names lead, with the folders on the way. A
folder that is there already stays as it is. -/
def insert (item : FileTree) : List String → FileTree → FileTree
  | [], t => if item.isFolder && t.isFolder then t else item
  | name :: rest, t =>
    match t.entries.find? fun e => e.1 == name with
    | none => .folder (t.entries ++ [(name, insert item rest empty)])
    | some old =>
      .folder (t.entries.map fun e =>
        if e.1 == name then (name, insert item rest old.2) else e)

/-- The names in a path that has nothing but names. -/
def names (path : String) : List String :=
  (Files.segments path).filter fun s => !(s.isEmpty || s == ".")

/-- The tree with these files and folders. -/
def ofList (items : List (String × FileTree)) : FileTree :=
  items.foldl (fun t i => insert i.2 (names i.1) t) empty

/-- Where segments lead from a folder, of which the folders above are given. -/
def walk : List FileTree → FileTree → List String → Option FileTree
  | _, t, [] => some t
  | outer, t, s :: rest =>
    match t with
    | .file _ | .closedFile => none
    | .closedFolder _ => if s.isEmpty then walk outer t rest else none
    | .folder entries =>
      if s.isEmpty || s == "." then walk outer t rest
      else if s == ".." then walk outer.tail (outer.head?.getD empty) rest
      else
        match entries.find? fun e => e.1 == s with
        | none => none
        | some e => walk (t :: outer) e.2 rest

/-- What a path leads to. An empty path leads nowhere. -/
def at? (t : FileTree) (path : String) : Option FileTree :=
  if path.isEmpty || path.toList.contains '\x00' then none
  else if path.startsWith "/" then walk [] empty (Files.segments path)
  else walk [] t (Files.segments path)

def hasFile (t : FileTree) (path : String) : Bool := (t.at? path).any isFile

def hasFolder (t : FileTree) (path : String) : Bool := (t.at? path).any isFolder

/-- What reading a file yields. -/
inductive Reading where
  /-- There is nothing, or nothing that can be opened. -/
  | missing
  /-- There is something, but no text: a folder, or bytes that are none. -/
  | noText
  | text (s : String)
deriving Repr, DecidableEq

/-- The text of a file. -/
def read (t : FileTree) (path : String) : Reading :=
  match t.at? path with
  | none | some .closedFile | some (.closedFolder _) => .missing
  | some (.folder _) => .noText
  | some (.file bytes) =>
    match String.fromUTF8? bytes with
    | none => .noText
    | some s => .text s

end FileTree

end Stepwise
