import Stepwise.Yaml.Node
import Stepwise.Yaml.Scalar

/-!
# Decoding

A decoder reads a value of some type from a node. It follows aliases, and counts
them: a document may be read as often as a hundred times over through its
aliases, and no further, so that a short document cannot stand for a huge value.

A decoder that knows what it expects takes every scalar for a text. One that has
to find out first what it has been given goes by the looks of the scalar
(`content`); it alone may meet collections within collections without an end,
and so it has a limit for their depth.

Where a document is not well formed, or not of the form expected, the reason is
not told. A reason of the decoder's own is.
-/

namespace Stepwise.Yaml

/-- Why a document could not be decoded. -/
inductive DecodeError (ε : Type) where
  /-- The text is not a document of the form expected. -/
  | malformed
  | rejected (reason : ε)
deriving Repr, DecidableEq

/-- A decoder keeps count of the aliases that may still be followed. -/
abbrev Decode (ε : Type) := StateT Nat (Except (DecodeError ε))

namespace Decode

variable {ε α σ : Type}

def malformed : Decode ε α := fun _ => .error .malformed

def reject (reason : ε) : Decode ε α := fun _ => .error (.rejected reason)

/-- What `some` holds. -/
def ofOption : Option α → Decode ε α
  | some a => return a
  | none => malformed

/-- The node itself, or the one that it names. -/
def follow (d : Document) : Node → Decode ε Node
  | .alias number => fun left =>
    match left, d.anchor? number with
    | left + 1, some n => .ok (n, left)
    | _, _ => .error .malformed
  | n => return n

/-! ## Scalars -/

/-- Any scalar is a text. -/
def string (d : Document) (n : Node) : Decode ε String := do
  match ← follow d n with
  | .scalar _ _ text => return text
  | _ => malformed

/-- Whether a scalar may be taken for a value of a kind: a plain one always, a
literal one if it has the tag of that kind. -/
def mayBe (kind : Tag) (tag : Option Tag) (style : ScalarStyle) : Bool :=
  style == .plain || (style == .literal && tag == some kind)

def bool (d : Document) (n : Node) : Decode ε Bool := do
  match ← follow d n with
  | .scalar tag style text =>
    if mayBe .bool tag style then ofOption (boolWord? text) else malformed
  | _ => malformed

/-- A whole number from zero up to a limit. -/
def natural (limit : Nat) (d : Document) (n : Node) : Decode ε Nat := do
  match ← follow d n with
  | .scalar tag style text =>
    if mayBe .int tag style then ofOption (natural? limit text) else malformed
  | _ => malformed

/-- Whether a node stands for nothing. -/
def isNull : Node → Decode ε Bool
  | .nothing => return true
  | .scalar tag .plain text =>
    match tag with
    | none => return text.isEmpty || isNullWord text
    | some t =>
      if t == .null then if isNullWord text then return true else malformed
      else return false
  | .cut => malformed
  | _ => return false

/-- A value that may be left out. -/
def optional (value : Document → Node → Decode ε α) (d : Document) (n : Node) :
    Decode ε (Option α) := do
  let n ← follow d n
  if ← isNull n then return none else return some (← value d n)

/-- The name of one of several variants. It is a scalar, or the name that a tag
gives to a scalar that stands for nothing. -/
def variant (d : Document) (n : Node) : Decode ε String := do
  match ← follow d n with
  | .scalar tag style text =>
    match tag.bind Tag.name? with
    | none => return text
    | some name =>
      if style == .plain && (text.isEmpty || isNullWord text) then return name else malformed
  | _ => malformed

/-! ## Collections -/

/-- A plain scalar without characters, or no document at all, stands for an empty
collection. -/
def isEmptyNode : Node → Bool
  | .nothing => true
  | .scalar _ .plain text => text.isEmpty
  | _ => false

def items (d : Document) (n : Node) : Decode ε (List Node) := do
  match ← follow d n with
  | .sequence _ items => return items
  | n => if isEmptyNode n then return [] else malformed

def entries (d : Document) (n : Node) : Decode ε (List (Node × Node)) := do
  match ← follow d n with
  | .mapping _ entries => return entries
  | n => if isEmptyNode n then return [] else malformed

/-- A list whose items are read in order. -/
def list (item : Document → Node → Decode ε α) (d : Document) (n : Node) :
    Decode ε (List α) := do
  (← items d n).mapM (item d)

/-- A record, whose fields are read in the order of the document. -/
def record (field : σ → String → Node → Decode ε σ) (start : σ) (d : Document) (n : Node) :
    Decode ε σ := do
  (← entries d n).foldlM (fun s e => do field s (← string d e.1) e.2) start

/-- A field that may stand once only. -/
def once (slot : Option α) (value : Decode ε α) : Decode ε (Option α) :=
  if slot.isSome then malformed else some <$> value

/-- A field that is not asked for. It must be well formed, and nothing else. -/
def ignore (n : Node) : Decode ε Unit := if n.isWhole then return () else malformed

end Decode

/-! ## Values by their looks -/

/-- A value whose kind was found by looking at it, as far as the kind
matters. -/
inductive Content where
  | null
  | text (s : String)
  | natural (n : Nat)
  | mapping (entries : List (Content × Content))
  /-- A value of another kind. -/
  | other
deriving Repr, Inhabited

namespace Content

variable {ε : Type}

/-- A whole number that is too wide is refused. -/
def ofLook (s : String) (l : Look) : Decode ε Content :=
  match l with
  | .null => return .null
  | .natural n => return .natural n
  | .wide => Decode.malformed
  | .text => return .text s
  | .bool _ | .negative _ | .float => return .other

/-- A tag of the standard decides what the scalar must be, and other tags make it
a text. A tag of the document's own is refused, but for one whose name is no text:
it counts only where the scalar is quoted. -/
def ofScalar (tag : Option Tag) (style : ScalarStyle) (s : String) : Decode ε Content :=
  match tag with
  | none => if style == .plain then ofLook s (.ofText s) else return .text s
  | some t =>
    if t.name?.isSome then Decode.malformed
    else if t == .bool then
      if (boolWord? s).isSome then return .other else Decode.malformed
    else if t == .int then
      match number? s with
      | some l => ofLook s l
      | none => Decode.malformed
    else if t == .float then
      if isFloat s then return .other else Decode.malformed
    else if t == .null then
      if isNullWord s then return .null else Decode.malformed
    else if t.isOwn && style == .plain then ofLook s (.ofText s)
    else return .text s

/-- Whether a collection has a name given by its tag. -/
def isNamed (tag : Option Tag) : Bool := (tag.bind Tag.name?).isSome

/-- A node by its looks, where `inner` reads what a collection holds. Without it
no collection may stand, and none that has a name. -/
def ofNodeWith (inner : Option (Node → Decode ε Content)) (d : Document) (n : Node) :
    Decode ε Content := do
  match ← Decode.follow d n, inner with
  | .nothing, _ => return .null
  | .scalar tag style s, _ => ofScalar tag style s
  | .sequence tag items, some inner =>
    if isNamed tag then Decode.malformed
    else
      let _ ← items.mapM inner
      return .other
  | .mapping tag entries, some inner =>
    if isNamed tag then Decode.malformed
    else return .mapping (← entries.mapM fun e => do return (← inner e.1, ← inner e.2))
  | _, _ => Decode.malformed

/-- A node by its looks. Collections may be nested to a depth. -/
def ofNode (d : Document) : Nat → Node → Decode ε Content
  | 0, n => ofNodeWith none d n
  | depth + 1, n => ofNodeWith (some (ofNode d depth)) d n

end Content

/-- Decodes a document as a whole. What is wrong behind the part that was read
counts only if nothing was wrong with that part. -/
def Document.decode {ε α : Type} (d : Document) (value : Document → Node → Decode ε α) :
    Except (DecodeError ε) α :=
  match value d d.root (100 * d.size) with
  | .error e => .error e
  | .ok (a, _) => if d.complete then .ok a else .error .malformed

end Stepwise.Yaml
