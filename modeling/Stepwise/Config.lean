import Stepwise.Yaml.Decode
import Stepwise.Text.Blank
import Stepwise.Files.Tree

/-!
# The configuration of a run

Two settings, read from a document in which both may be left out. A blank text
is the configuration with no setting changed, and so is a document that is a
record without fields or has nothing but comments.
-/

namespace Stepwise

open Yaml (Node Document Decode)

structure Config where
  /-- Milliseconds to wait before a scenario is tried again. -/
  retryDelay : UInt64
  /-- Keys without a value in the store are looked up in the environment. -/
  useEnvironment : Bool
deriving Repr, DecidableEq

namespace Config

def standard : Config := ⟨0, false⟩

/-- The whole seconds of the wait before another try. -/
def retrySeconds (c : Config) : Nat := c.retryDelay.toNat / 1000

/-- What the wait before another try has beyond its whole seconds, in nanoseconds. -/
def retryNanoseconds (c : Config) : Nat := c.retryDelay.toNat % 1000 * 1000000

/-- The settings that have been read. -/
structure Fields where
  retryDelay : Option Nat
  useEnvironment : Option Bool

open Yaml.Decode in
def Fields.read (d : Document) (f : Fields) (key : String) (n : Node) :
    Decode Empty Fields := do
  match key with
  | "retry_delay_ms" =>
    return { f with retryDelay := ← once f.retryDelay (natural (UInt64.size - 1) d n) }
  | "env_fallback" => return { f with useEnvironment := ← once f.useEnvironment (bool d n) }
  | _ =>
    ignore n
    return f

def decode (d : Document) (n : Node) : Decode Empty Config := do
  let f ← Decode.record (Fields.read d) ⟨none, none⟩ d n
  return ⟨UInt64.ofNat (f.retryDelay.getD 0), f.useEnvironment.getD false⟩

/-- The configuration that a text describes. -/
def ofText? (s : String) : Option Config :=
  if Text.isBlank s then some standard
  else ((Document.ofText s).decode decode).toOption

end Config

/-! ## Loading -/

/-- Why a configuration could not be loaded. -/
inductive ConfigError where
  | missing (path : String)
  | malformed
  /-- There is something to read, but no text. -/
  | noText
deriving Repr, DecidableEq

/-- A file that could be opened and not read has no message of its own. -/
def ConfigError.message? : ConfigError → Option String
  | .missing path => some s!"설정 파일을 열 수 없습니다: {path}"
  | .malformed => some "설정 파싱 실패"
  | .noText => none

namespace Config

def ofText (text : String) : Except ConfigError Config :=
  match ofText? text with
  | some config => .ok config
  | none => .error .malformed

def ofBytes (bytes : ByteArray) : Except ConfigError Config :=
  match String.fromUTF8? bytes with
  | some text => ofText text
  | none => .error .noText

def loadFile (t : FileTree) (path : String) : Except ConfigError Config :=
  match t.read path with
  | .missing => .error (.missing path)
  | .noText => .error .noText
  | .text text => ofText text

end Config

end Stepwise
