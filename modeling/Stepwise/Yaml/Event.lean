import Stepwise.Yaml.Token.Stream

/-!
# Events of a document

The tokens of a text, read by the grammar: where collections begin and end, and
which scalars and aliases stand in them. A value that is left out is a plain
scalar without characters. A text that is not well formed has events all the
same, up to the place where it goes wrong (`Events.complete`); a reader that is
satisfied or disappointed before that place never learns of it.

The grammar is a machine with a stack. A state says what is expected next, the
stack what is expected after a value that has been begun.
-/

namespace Stepwise.Yaml

/-- What may be written in front of a value. -/
structure Properties where
  anchor : Option String
  tag : Option Tag
deriving Repr, DecidableEq, Inhabited

def Properties.none : Properties := ⟨Option.none, Option.none⟩

inductive Event where
  | streamStart
  | streamEnd
  | documentStart
  | documentEnd
  | alias (name : String)
  | scalar (properties : Properties) (text : String) (style : ScalarStyle)
  | sequenceStart (properties : Properties)
  | sequenceEnd
  | mappingStart (properties : Properties)
  | mappingEnd
deriving Repr, DecidableEq, Inhabited

/-- What is expected next. -/
inductive Expect where
  | streamStart
  | document (implicit : Bool)
  | documentContent
  | documentEnd
  | blockNode
  | sequenceEntry (first : Bool)
  | indentlessEntry
  | mappingKey (first : Bool)
  | mappingValue
  | flowEntry (first : Bool)
  | flowPairKey
  | flowPairValue
  | flowPairEnd
  | flowKey (first : Bool)
  | flowValue
  | flowEmptyValue
  | done
deriving Repr, DecidableEq, Inhabited

structure Machine where
  tokens : TokenStream
  expect : Expect
  /-- What is expected after the values that have been begun. -/
  stack : List Expect
  /-- What the handles of tags stand for. -/
  handles : List (String × List UInt8)

namespace Machine

def ofText (s : String) : Machine := ⟨TokenStream.ofText s, .streamStart, [], []⟩

abbrev Step := Option (Event × Machine)

def peek (m : Machine) : Option (Token × Machine) := do
  let (token, tokens) ← m.tokens.peek
  return (token, { m with tokens })

def drop (m : Machine) : Machine := { m with tokens := m.tokens.drop }

def goto (m : Machine) (e : Expect) : Machine := { m with expect := e }

def pushState (m : Machine) (e : Expect) : Machine := { m with stack := e :: m.stack }

def pop (m : Machine) : Machine :=
  { m with expect := m.stack.head?.getD .done, stack := m.stack.tail }

/-- A value that is left out. -/
def emptyScalar (m : Machine) (next : Expect) : Step :=
  some (.scalar Properties.none "" .plain, m.goto next)

/-! ## Directives -/

/-- What two handles stand for in every document. -/
def defaultHandles : List (String × List UInt8) :=
  [("!", Tag.bytesOf "!"), ("!!", Tag.bytesOf "tag:yaml.org,2002:")]

/-- Reads the directives at the head of a document: one version at most, which
must be 1.1 or 1.2, and one meaning for each handle. -/
def directives : Nat → Machine → Bool → List (String × List UInt8) → Option Machine
  | 0, _, _, _ => none
  | fuel + 1, m, versioned, handles => do
    let (token, m) ← m.peek
    match token with
    | .versionDirective major minor =>
      if versioned || major != 1 || !(minor == 1 || minor == 2) then none
      else directives fuel m.drop true handles
    | .tagDirective handle lead =>
      if handles.any fun h => h.1 == handle then none
      else directives fuel m.drop versioned (handles ++ [(handle, lead)])
    | _ =>
      let missing := defaultHandles.filter fun d => !handles.any fun h => h.1 == d.1
      return { m with handles := handles ++ missing }

/-! ## Values -/

/-- The whole of a tag, if its handle has a meaning. -/
def resolveTag (m : Machine) (handle : String) (suffix : List UInt8) : Option Tag :=
  if handle.isEmpty then some (Tag.ofParts [] suffix)
  else (m.handles.find? fun h => h.1 == handle).map fun h => Tag.ofParts h.2 suffix

/-- The anchor and the tag in front of a value, in either order. -/
def properties (m : Machine) : Option (Properties × Machine) := do
  let (token, m) ← m.peek
  match token with
  | .anchor name =>
    let (token, m) ← m.drop.peek
    match token with
    | .tag handle suffix =>
      return (⟨some name, some (← m.resolveTag handle suffix)⟩, m.drop)
    | _ => return (⟨some name, none⟩, m)
  | .tag handle suffix =>
    let tag ← m.resolveTag handle suffix
    let (token, m) ← m.drop.peek
    match token with
    | .anchor name => return (⟨some name, some tag⟩, m.drop)
    | _ => return (⟨none, some tag⟩, m)
  | _ => return (Properties.none, m)

/-- Properties alone make a value that is left out; nothing at all is an
error. -/
def emptyOr (m : Machine) (p : Properties) : Step :=
  if p.anchor.isSome || p.tag.isSome then some (.scalar p "" .plain, m.pop) else none

/-- A value. In a block, block collections may stand, and as the value of a
mapping also a sequence that is not indented. -/
def node (block indentless : Bool) (m : Machine) : Step := do
  let (token, m) ← m.peek
  match token with
  | .alias name => return (.alias name, m.drop.pop)
  | _ =>
    let (p, m) ← m.properties
    let (token, m) ← m.peek
    match token with
    | .blockEntry =>
      if indentless then return (.sequenceStart p, m.goto .indentlessEntry)
      else m.emptyOr p
    | .scalar text style => return (.scalar p text style, m.drop.pop)
    | .flowSequenceStart => return (.sequenceStart p, m.goto (.flowEntry true))
    | .flowMappingStart => return (.mappingStart p, m.goto (.flowKey true))
    | .blockSequenceStart =>
      if block then return (.sequenceStart p, m.goto (.sequenceEntry true)) else m.emptyOr p
    | .blockMappingStart =>
      if block then return (.mappingStart p, m.goto (.mappingKey true)) else m.emptyOr p
    | _ => m.emptyOr p

/-- A value, unless one of the tokens comes that show that it was left out. -/
def nodeUnless (m : Machine) (block indentless : Bool) (stops : Token → Bool)
    (next : Expect) : Step := do
  let (token, m) ← m.peek
  if stops token then m.emptyScalar next else (m.pushState next).node block indentless

/-! ## Documents and collections -/

def isDirective : Token → Bool
  | .versionDirective .. | .tagDirective .. => true
  | _ => false

def dropDocumentEnds : Nat → Machine → Option Machine
  | 0, _ => none
  | fuel + 1, m => do
    let (token, m) ← m.peek
    if token == .documentEnd then dropDocumentEnds fuel m.drop else return m

/-- As much fuel as tokens can be left. -/
def fuel (m : Machine) : Nat := m.tokens.cursor.size + m.tokens.queue.length + 8

/-- The start of a document or the end of the text. Only the first document may
begin without its mark. -/
def document (m : Machine) (implicit : Bool) : Step := do
  let m ← if implicit then some m else dropDocumentEnds m.fuel m
  let (token, m) ← m.peek
  if token == .streamEnd then return (.streamEnd, m.drop.goto .done)
  else if implicit && !isDirective token && token != .documentStart then
    let m ← directives m.fuel m false []
    return (.documentStart, (m.pushState .documentEnd).goto .blockNode)
  else
    let m ← directives m.fuel m false []
    let (token, m) ← m.peek
    if token == .documentStart then
      return (.documentStart, (m.pushState .documentEnd).drop.goto .documentContent)
    else none

/-- The value of a document, which may be left out. -/
def documentContent (m : Machine) : Step := do
  let (token, m) ← m.peek
  match token with
  | .versionDirective .. | .tagDirective .. | .documentStart | .documentEnd | .streamEnd =>
    return (.scalar Properties.none "" .plain, m.pop)
  | _ => m.node true false

def documentEnd (m : Machine) : Step := do
  let (token, m) ← m.peek
  let m := if token == .documentEnd then m.drop else m
  return (.documentEnd, { m with handles := [] }.goto (.document false))

def sequenceEntry (m : Machine) (first : Bool) : Step := do
  let m ← if first then (m.peek.map fun r => r.2.drop) else some m
  let (token, m) ← m.peek
  match token with
  | .blockEntry =>
    m.drop.nodeUnless true false (fun t => t == .blockEntry || t == .blockEnd)
      (.sequenceEntry false)
  | .blockEnd => return (.sequenceEnd, m.drop.pop)
  | _ => none

def indentlessEntry (m : Machine) : Step := do
  let (token, m) ← m.peek
  if token == .blockEntry then
    m.drop.nodeUnless true false
      (fun t => t == .blockEntry || t == .key || t == .value || t == .blockEnd)
      .indentlessEntry
  else return (.sequenceEnd, m.pop)

/-- Tokens that show that a key or a value of a block mapping was left out. -/
def endsPairPart (t : Token) : Bool := t == .key || t == .value || t == .blockEnd

def mappingKey (m : Machine) (first : Bool) : Step := do
  let m ← if first then (m.peek.map fun r => r.2.drop) else some m
  let (token, m) ← m.peek
  match token with
  | .key => m.drop.nodeUnless true true endsPairPart .mappingValue
  | .blockEnd => return (.mappingEnd, m.drop.pop)
  | _ => none

def mappingValue (m : Machine) : Step := do
  let (token, m) ← m.peek
  if token == .value then m.drop.nodeUnless true true endsPairPart (.mappingKey false)
  else m.emptyScalar (.mappingKey false)

/-- Passes over the comma between two entries of a flow collection, which must be
there. -/
def flowComma (m : Machine) (first : Bool) (close : Token) : Option (Token × Machine) := do
  let (token, m) ← m.peek
  if token == close || first then return (token, m)
  else if token == .flowEntry then m.drop.peek
  else none

def flowEntry (m : Machine) (first : Bool) : Step := do
  let m ← if first then (m.peek.map fun r => r.2.drop) else some m
  let (token, m) ← m.flowComma first .flowSequenceEnd
  if token == .flowSequenceEnd then return (.sequenceEnd, m.drop.pop)
  else if token == .key then
    return (.mappingStart Properties.none, m.drop.goto .flowPairKey)
  else (m.pushState (.flowEntry false)).node false false

/-- The key of a pair that stands in a flow sequence. If it is left out the token
behind it is passed over. -/
def flowPairKey (m : Machine) : Step := do
  let (token, m) ← m.peek
  if token == .value || token == .flowEntry || token == .flowSequenceEnd then
    m.drop.emptyScalar .flowPairValue
  else (m.pushState .flowPairValue).node false false

def flowPairValue (m : Machine) : Step := do
  let (token, m) ← m.peek
  if token == .value then
    m.drop.nodeUnless false false (fun t => t == .flowEntry || t == .flowSequenceEnd)
      .flowPairEnd
  else m.emptyScalar .flowPairEnd

/-- The end of such a pair. What stands behind it must be a token. -/
def flowPairEnd (m : Machine) : Step := do
  let (_, m) ← m.peek
  return (.mappingEnd, m.goto (.flowEntry false))

def flowKey (m : Machine) (first : Bool) : Step := do
  let m ← if first then (m.peek.map fun r => r.2.drop) else some m
  let (token, m) ← m.flowComma first .flowMappingEnd
  if token == .flowMappingEnd then return (.mappingEnd, m.drop.pop)
  else if token == .key then
    m.drop.nodeUnless false false
      (fun t => t == .value || t == .flowEntry || t == .flowMappingEnd) .flowValue
  else (m.pushState .flowEmptyValue).node false false

def flowValue (m : Machine) : Step := do
  let (token, m) ← m.peek
  if token == .value then
    m.drop.nodeUnless false false (fun t => t == .flowEntry || t == .flowMappingEnd)
      (.flowKey false)
  else m.emptyScalar (.flowKey false)

/-- The value of a key that stands without one. -/
def flowEmptyValue (m : Machine) : Step := do
  let (_, m) ← m.peek
  m.emptyScalar (.flowKey false)

/-- The next event. -/
def step (m : Machine) : Step :=
  match m.expect with
  | .streamStart => do
    let (_, m) ← m.peek
    return (.streamStart, m.drop.goto (.document true))
  | .document implicit => m.document implicit
  | .documentContent => m.documentContent
  | .documentEnd => m.documentEnd
  | .blockNode => m.node true false
  | .sequenceEntry first => m.sequenceEntry first
  | .indentlessEntry => m.indentlessEntry
  | .mappingKey first => m.mappingKey first
  | .mappingValue => m.mappingValue
  | .flowEntry first => m.flowEntry first
  | .flowPairKey => m.flowPairKey
  | .flowPairValue => m.flowPairValue
  | .flowPairEnd => m.flowPairEnd
  | .flowKey first => m.flowKey first
  | .flowValue => m.flowValue
  | .flowEmptyValue => m.flowEmptyValue
  | .done => none

end Machine

/-- The events of a text. -/
structure Events where
  list : List Event
  /-- The text is well formed to its end. -/
  complete : Bool
deriving Repr

namespace Events

/-- The events that a machine still yields. -/
def ofMachine : Nat → Machine → Events
  | 0, _ => ⟨[], false⟩
  | fuel + 1, m =>
    match m.step with
    | none => ⟨[], false⟩
    | some (e, m) =>
      if e == .streamEnd then ⟨[e], true⟩
      else
        let rest := ofMachine fuel m
        ⟨e :: rest.list, rest.complete⟩

/-- The events of a text. Every character gives rise to a few events at most. -/
def ofText (s : String) : Events := ofMachine (8 * s.length + 32) (Machine.ofText s)

end Events

end Stepwise.Yaml
