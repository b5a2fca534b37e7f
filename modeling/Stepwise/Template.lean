import Stepwise.Store
import Stepwise.Text.Blank

/-!
# Templates

A text may hold placeholders: two opening braces, a key, two closing braces,
with white space around the key if wanted. A key is not empty and holds neither
braces nor white space. `pieces` cuts a text into placeholders and the
characters between them, from left to right, and `fill` puts a text in the place
of each placeholder. What is put in is not looked at again.

At any place of a text at most one placeholder begins (`placeholder?` is a
function), and it holds two braces before anything else, so no second one begins
inside it: the cut from the left finds every placeholder.
-/

namespace Stepwise

open Text (isWhite)

/-- A key that has no value, with the text that asks for it. -/
structure MissingValue where
  key : String
  text : String
deriving Repr, DecidableEq

/-- The message of a key that has no value. -/
def MissingValue.message (m : MissingValue) : String :=
  s!"Store에 '{m.key}' 값이 없어 치환할 수 없습니다: {m.text}"

namespace Template

/-- The characters a key is made of. -/
def isKeyChar (c : Char) : Bool := !(c == '{' || c == '}' || isWhite c)

/-- The placeholder with which a text begins, if one does: its key, and the rest
of the text. -/
def placeholder? (cs : List Char) : Option (List Char × List Char) :=
  match cs with
  | '{' :: '{' :: inner =>
    let inner := inner.dropWhile isWhite
    let key := inner.takeWhile isKeyChar
    match (inner.dropWhile isKeyChar).dropWhile isWhite with
    | '}' :: '}' :: rest => if key.isEmpty then none else some (key, rest)
    | _ => none
  | _ => none

theorem length_dropWhile_le {p : Char → Bool} (cs : List Char) :
    (cs.dropWhile p).length ≤ cs.length :=
  (List.dropWhile_suffix p).length_le

/-- A placeholder takes something off the text. -/
theorem length_lt_of_placeholder? {cs key rest : List Char}
    (h : placeholder? cs = some (key, rest)) : rest.length < cs.length := by
  unfold placeholder? at h
  split at h
  · next inner =>
      simp only at h
      split at h
      · next after he =>
          split at h
          · cases h
          · cases h
            have h₁ := length_dropWhile_le (p := isWhite) inner
            have h₂ := length_dropWhile_le (p := isKeyChar) (inner.dropWhile isWhite)
            have h₃ := length_dropWhile_le (p := isWhite)
              ((inner.dropWhile isWhite).dropWhile isKeyChar)
            rw [he] at h₃
            simp only [List.length_cons] at h₃ ⊢
            omega
      · cases h
  · cases h

/-- A part of a text: a character that stands for itself, or a placeholder. -/
inductive Piece where
  | char (c : Char)
  | placeholder (key : String)
deriving Repr, DecidableEq

/-- The parts of a text from left to right. -/
def pieces (cs : List Char) : List Piece :=
  match _h : placeholder? cs with
  | some (key, rest) => .placeholder (String.ofList key) :: pieces rest
  | none =>
    match cs with
    | [] => []
    | c :: rest => .char c :: pieces rest
termination_by cs.length
decreasing_by
  · exact length_lt_of_placeholder? _h
  · simp

/-- Puts the text of each key in its place. The first key without a text ends
the attempt. -/
def fillPieces (lookup : String → Option String) : List Piece → Except String (List Char)
  | [] => .ok []
  | .char c :: rest =>
    match fillPieces lookup rest with
    | .ok cs => .ok (c :: cs)
    | .error key => .error key
  | .placeholder key :: rest =>
    match lookup key with
    | none => .error key
    | some value =>
      match fillPieces lookup rest with
      | .ok cs => .ok (value.toList ++ cs)
      | .error key => .error key

/-- The text with every placeholder replaced. -/
def fill (lookup : String → Option String) (text : String) : Except MissingValue String :=
  match fillPieces lookup (pieces text.toList) with
  | .ok cs => .ok (String.ofList cs)
  | .error key => .error ⟨key, text⟩

end Template

/-- Where the keys of placeholders are looked up: in the store, and after it in
the environment if that is allowed. -/
structure Sources where
  store : Store
  environment : Environment
  useEnvironment : Bool

/-- The text of a key. -/
def Sources.lookup (s : Sources) (key : String) : Option String :=
  if s.useEnvironment then s.store.getOrEnv s.environment key
  else (s.store.get key).map Value.display

/-- Fills a text from the sources. -/
def Sources.fill (s : Sources) (text : String) : Except MissingValue String :=
  Template.fill s.lookup text

end Stepwise
