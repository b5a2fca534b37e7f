import Stepwise.Yaml.Token.Name
import Stepwise.Yaml.Token.Scalar

/-!
# The stream of tokens

Tokens are made on demand. The difficulty is the key of a mapping, which is only
known to be one when the colon behind it is read: then a key token, and perhaps
the start of a block mapping, has to be put in front of tokens that were made
before. So every place where a key may begin is remembered (`KeyPlace`), and a
token is handed out only when no key can begin in front of it any more.

A key lies on one line and is at most 1024 bytes long. Where a block mapping goes
on, something that could be a key must be one.
-/

namespace Stepwise.Yaml

/-- A place where a key may have begun. -/
structure KeyPlace where
  /-- The number of the token that would be the key. -/
  token : Nat
  /-- The block it stands in admits nothing but a key. -/
  required : Bool
  index : Nat
  line : Nat
  column : Nat
deriving Repr

structure TokenStream where
  cursor : Cursor
  /-- Tokens that have been made and not handed out. -/
  queue : List Token
  /-- How many have been handed out. -/
  taken : Nat
  started : Bool
  /-- The columns of the blocks that are open, the innermost first. Outside all
  blocks the column is `-1`. -/
  indent : Int
  outer : List Int
  /-- How many flow collections are open. -/
  flowLevel : Nat
  /-- A key may begin at the next token. -/
  keyAllowed : Bool
  /-- The place of a possible key on each level, the innermost first. -/
  keys : List (Option KeyPlace)

namespace TokenStream

open Scan (look peek takeWhile takeBreak)

def ofText (s : String) : TokenStream :=
  ⟨Cursor.ofText s, [], 0, false, -1, [], 0, false, []⟩

def inFlow (t : TokenStream) : Bool := t.flowLevel != 0

def push (t : TokenStream) (token : Token) : TokenStream :=
  { t with queue := t.queue ++ [token] }

/-- Runs a scan at the cursor. -/
def scan {α : Type} (t : TokenStream) (s : Scan α) : Option (α × TokenStream) :=
  (s t.cursor).map fun r => (r.1, { t with cursor := r.2 })

def skip (t : TokenStream) (n : Nat) : TokenStream :=
  { t with cursor := t.cursor.skip n }

/-! ## Possible keys -/

/-- Gives up the places that are too far back to be keys. A key that was required
cannot be given up. -/
def dropStaleKeys (t : TokenStream) : Option TokenStream := do
  let keys ← t.keys.mapM fun k =>
    match k with
    | none => some none
    | some k =>
      if k.line < t.cursor.line || k.index + 1024 < t.cursor.index then
        if k.required then none else some none
      else some (some k)
  return { t with keys }

/-- Gives up the place on the innermost level. -/
def dropKey (t : TokenStream) : Option TokenStream :=
  match t.keys with
  | some k :: rest => if k.required then none else some { t with keys := none :: rest }
  | _ => some t

/-- Remembers that a key may begin here. -/
def saveKey (t : TokenStream) : Option TokenStream :=
  if t.keyAllowed then do
    let required := !t.inFlow && t.indent == (t.cursor.column : Int)
    let place : KeyPlace :=
      ⟨t.taken + t.queue.length, required, t.cursor.index, t.cursor.line, t.cursor.column⟩
    let t ← t.dropKey
    return { t with keys := some place :: t.keys.tail }
  else some t

/-! ## Blocks -/

/-- Puts a token in front of the one with a number, or at the end. -/
def insertAt (t : TokenStream) (number : Option Nat) (token : Token) : TokenStream :=
  match number with
  | none => t.push token
  | some n =>
    let (before, behind) := t.queue.splitAt (n - t.taken)
    { t with queue := before ++ token :: behind }

/-- Opens a block at a column to the right of the one that is open. -/
def openBlock (t : TokenStream) (column : Nat) (number : Option Nat) (token : Token) :
    TokenStream :=
  if !t.inFlow && t.indent < column then
    { t with indent := column, outer := t.indent :: t.outer }.insertAt number token
  else t

/-- Closes the blocks to the right of a column. -/
def closeBlocks (t : TokenStream) (column : Int) : TokenStream :=
  if t.inFlow then t
  else
    let rec go (indent : Int) (queue : List Token) : List Int → TokenStream
      | [] => { t with indent, outer := [], queue }
      | next :: outer =>
        if column < indent then go next (queue ++ [.blockEnd]) outer
        else { t with indent, outer := next :: outer, queue }
    go t.indent t.queue t.outer

/-! ## Tokens one by one -/

/-- Passes over white space and a comment, and over a line break if one follows,
which it reports. A tabulator is white space only where that is said. At the
start of a line one byte-order mark is passed over. -/
def scanFiller (tabs : Bool) : Scan Bool := do
  look 1
  if (← get).column == 0 && (← peek) == some '\ufeff' then Scan.skip
  let _ ← takeWhile fun c => c == ' ' || (tabs && c == '\t')
  if (← peek) == some '#' then
    let _ ← takeWhile fun c => !isBreak c
  let broken := (← peek).any isBreak
  if broken then
    let _ ← takeBreak
  return broken

/-- Passes over all that stands in front of a token. A tabulator is white space
where no key may begin. -/
def skipToToken : Nat → TokenStream → Option TokenStream
  | 0, _ => none
  | fuel + 1, t => do
    let (broken, t) ← t.scan (scanFiller (t.inFlow || !t.keyAllowed))
    if broken then skipToToken fuel { t with keyAllowed := t.keyAllowed || !t.inFlow }
    else return t

def fetchStreamEnd (t : TokenStream) : Option TokenStream := do
  let c := t.cursor
  let c := if c.column = 0 then c else { c with column := 0, line := c.line + 1 }
  let t ← ({ t with cursor := c }.closeBlocks (-1)).dropKey
  return { t with keyAllowed := false }.push .streamEnd

def fetchDirective (t : TokenStream) : Option TokenStream := do
  let t ← (t.closeBlocks (-1)).dropKey
  let (token, t) ← { t with keyAllowed := false }.scan scanDirective
  return t.push token

def fetchMark (t : TokenStream) (token : Token) : Option TokenStream := do
  let t ← (t.closeBlocks (-1)).dropKey
  return ({ t with keyAllowed := false }.skip 3).push token

def fetchFlowStart (t : TokenStream) (token : Token) : Option TokenStream := do
  let t ← t.saveKey
  return ({ t with
    keys := none :: t.keys
    flowLevel := t.flowLevel + 1
    keyAllowed := true }.skip 1).push token

def fetchFlowEnd (t : TokenStream) (token : Token) : Option TokenStream := do
  let t ← t.dropKey
  let t :=
    if t.inFlow then { t with keys := t.keys.tail, flowLevel := t.flowLevel - 1 } else t
  return ({ t with keyAllowed := false }.skip 1).push token

def fetchFlowEntry (t : TokenStream) : Option TokenStream := do
  let t ← t.dropKey
  return ({ t with keyAllowed := true }.skip 1).push .flowEntry

/-- Opens a block collection at the cursor, where that is allowed. -/
def startBlock (t : TokenStream) (token : Token) : Option TokenStream :=
  if t.inFlow then some t
  else if t.keyAllowed then some (t.openBlock t.cursor.column none token)
  else none

def fetchBlockEntry (t : TokenStream) : Option TokenStream := do
  let t ← (← t.startBlock .blockSequenceStart).dropKey
  return ({ t with keyAllowed := true }.skip 1).push .blockEntry

def fetchKey (t : TokenStream) : Option TokenStream := do
  let t ← (← t.startBlock .blockMappingStart).dropKey
  return ({ t with keyAllowed := !t.inFlow }.skip 1).push .key

/-- A colon. If a key may have begun before it, it has: the key token goes in
front of it, and in front of that the start of the block mapping if there was
none. -/
def fetchValue (t : TokenStream) : Option TokenStream :=
  match t.keys with
  | some k :: rest =>
    let t := { t with keys := none :: rest, keyAllowed := false }
    let t := t.insertAt (some k.token) .key
    let t := t.openBlock k.column (some k.token) .blockMappingStart
    some ((t.skip 1).push .value)
  | _ => do
    let t ← t.startBlock .blockMappingStart
    return ({ t with keyAllowed := !t.inFlow }.skip 1).push .value

def fetchName (t : TokenStream) (make : String → Token) : Option TokenStream := do
  let t ← t.saveKey
  let (name, t) ← { t with keyAllowed := false }.scan scanAnchorName
  return t.push (make name)

def fetchTag (t : TokenStream) : Option TokenStream := do
  let t ← t.saveKey
  let (token, t) ← { t with keyAllowed := false }.scan scanTag
  let (_, t) ← t.scan (scanTagEnd t.inFlow)
  return t.push token

def fetchBlockScalar (t : TokenStream) (folded : Bool) : Option TokenStream := do
  let t ← t.dropKey
  let (token, t) ← { t with keyAllowed := true }.scan (scanBlock folded t.indent)
  return t.push token

def fetchQuoted (t : TokenStream) (single : Bool) : Option TokenStream := do
  let t ← t.saveKey
  let (token, t) ← { t with keyAllowed := false }.scan (scanQuoted single)
  return t.push token

def fetchPlain (t : TokenStream) : Option TokenStream := do
  let t ← t.saveKey
  let ((token, broken), t) ← { t with keyAllowed := false }.scan (scanPlain t.inFlow t.indent)
  return { t with keyAllowed := broken }.push token

/-- Characters with which a plain scalar does not begin. -/
def isIndicator (c : Char) : Bool := "-?:,[]\x7b\x7d#&*!|>\x27\x22%@`".toList.contains c

/-- Whether a plain scalar begins with these two characters. The three signs that
begin entries, keys and values also begin scalars, if something is joined to
them. -/
def beginsPlain (inFlow : Bool) (c : Char) (following : Option Char) : Bool :=
  !(isGap c || isBreak c || isIndicator c) ||
    (c == '-' && !following.any isGap) ||
    (!inFlow && (c == '?' || c == ':') && !endsWord following)

/-- Makes the next token, and those that must stand before it. -/
def fetch (t : TokenStream) : Option TokenStream := do
  let (_, t) ← t.scan (look 1)
  if !t.started then
    return { t with started := true, keyAllowed := true, keys := [none] }.push .streamStart
  else
    let t ← (← skipToToken (t.cursor.size + 1) t).dropStaleKeys
    let (_, t) ← (t.closeBlocks t.cursor.column).scan (look 4)
    let following := t.cursor.at? 1
    match t.cursor.at? 0 with
    | none => t.fetchStreamEnd
    | some c =>
      if t.cursor.column == 0 && c == '%' then t.fetchDirective
      else if t.cursor.isMark '-' then t.fetchMark .documentStart
      else if t.cursor.isMark '.' then t.fetchMark .documentEnd
      else if c == '[' then t.fetchFlowStart .flowSequenceStart
      else if c == '{' then t.fetchFlowStart .flowMappingStart
      else if c == ']' then t.fetchFlowEnd .flowSequenceEnd
      else if c == '}' then t.fetchFlowEnd .flowMappingEnd
      else if c == ',' then t.fetchFlowEntry
      else if c == '-' && endsWord following then t.fetchBlockEntry
      else if c == '?' && (t.inFlow || endsWord following) then t.fetchKey
      else if c == ':' && (t.inFlow || endsWord following) then t.fetchValue
      else if c == '*' then t.fetchName .alias
      else if c == '&' then t.fetchName .anchor
      else if c == '!' then t.fetchTag
      else if c == '|' && !t.inFlow then t.fetchBlockScalar false
      else if c == '>' && !t.inFlow then t.fetchBlockScalar true
      else if c == '\x27' then t.fetchQuoted true
      else if c == '\x22' then t.fetchQuoted false
      else if beginsPlain t.inFlow c following then t.fetchPlain
      else none

/-- Makes tokens until the first one can be handed out: until no key can begin in
front of it. -/
def fill : Nat → TokenStream → Option TokenStream
  | 0, _ => none
  | fuel + 1, t =>
    match t.queue with
    | [] => do fill fuel (← t.fetch)
    | _ :: _ => do
      let t ← t.dropStaleKeys
      if t.keys.any fun k => k.any fun k => k.token == t.taken then fill fuel (← t.fetch)
      else return t

/-- The next token, which stays where it is. -/
def peek (t : TokenStream) : Option (Token × TokenStream) := do
  let t ← t.fill (t.cursor.size + t.queue.length + 8)
  let token ← t.queue.head?
  return (token, t)

/-- Hands out the next token. -/
def drop (t : TokenStream) : TokenStream :=
  { t with queue := t.queue.tail, taken := t.taken + 1 }

end TokenStream

end Stepwise.Yaml
