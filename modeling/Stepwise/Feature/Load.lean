import Stepwise.Feature.Document
import Stepwise.Files.Search

/-!
# Loading features

Features are loaded from texts, from files, and from all files that a pattern
stands for. Files are taken in the order of their paths, whatever the order in
which the search came upon them, and the first one that cannot be loaded decides
what is told: nothing is loaded then. Folders that a pattern stands for are
passed over, but one that the search cannot look into ends the attempt before any
file is opened.
-/

namespace Stepwise

open Files (PatternError PathPattern pathLe)

/-- Why features could not be loaded. -/
inductive LoadError where
  | unreadable (path : String)
  | malformed (origin : String) (cause : Yaml.DecodeError StepFault)
  | badPattern (error : PatternError)
  | closedFolder (closed : FileTree.ClosedFolder)
deriving Repr, DecidableEq

def LoadError.message : LoadError → String
  | .unreadable path => s!"Feature 파일을 읽을 수 없습니다: {path}"
  | .malformed origin _ => s!"Feature 정의 파싱 실패: {origin}"
  | .badPattern error => s!"glob 패턴 파싱 실패: {error.message}"
  | .closedFolder closed =>
    s!"Feature 경로 탐색 실패: attempting to read `{closed.path}` " ++
      s!"resulted in an error: {closed.reason}"

namespace Feature

/-- The feature that a text describes. -/
def ofText (origin : String) (text : String) : Except LoadError Feature :=
  match ofDocument (Yaml.Document.ofText text) with
  | .ok feature => .ok feature
  | .error cause => .error (.malformed origin cause)

/-- The feature that bytes describe, which must be a text. -/
def ofBytes (origin : String) (bytes : ByteArray) : Except LoadError Feature :=
  match String.fromUTF8? bytes with
  | some text => ofText origin text
  | none => .error (.unreadable origin)

/-- Loads a file. -/
def loadFile (t : FileTree) (path : String) : Except LoadError Feature :=
  match t.read path with
  | .text text => ofText path text
  | .missing | .noText => .error (.unreadable path)

/-- Loads the files among some paths, in the order of the paths. -/
def loadPaths (t : FileTree) (paths : List String) : Except LoadError (List Feature) :=
  ((paths.mergeSort pathLe).filter t.hasFile).mapM (loadFile t)

/-- Loads the files that a pattern stands for. -/
def loadMatching (t : FileTree) (pattern : String) : Except LoadError (List Feature) :=
  match PathPattern.ofText pattern with
  | .error error => .error (.badPattern error)
  | .ok p =>
    match (t.search p).mapM id with
    | .error closed => .error (.closedFolder closed)
    | .ok paths => loadPaths t paths

end Feature

end Stepwise
