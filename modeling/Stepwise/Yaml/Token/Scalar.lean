import Stepwise.Yaml.Cursor
import Stepwise.Yaml.Token

/-!
# Scalars

The four ways of writing a text in a document. Between the lines of a plain or a
quoted scalar, and of a folded one, line breaks are folded: one break becomes a
blank, and of more than one the first is dropped. A separator of lines or
paragraphs is kept. A literal scalar keeps its lines as they are.
-/

namespace Stepwise.Yaml

open Scan

/-- What two parts of a scalar are joined by, when a first line break and then
some further ones stand between them. -/
def foldBreaks (first more : List Char) : List Char :=
  if first.head? == some '\n' then (if more.isEmpty then [' '] else more)
  else first ++ more

/-- The gaps and line breaks between two parts of a scalar. -/
structure Gap where
  /-- The blanks and tabulators of the line, if it does not end here, in
  reverse. -/
  blanks : List Char
  firstBreak : List Char
  /-- In reverse. -/
  moreBreaks : List Char
  /-- A line has ended. -/
  broken : Bool

def Gap.none : Gap := ⟨[], [], [], false⟩

/-- What stands for the gap in the scalar. -/
def Gap.text (g : Gap) : List Char :=
  if g.broken then foldBreaks g.firstBreak g.moreBreaks.reverse else g.blanks.reverse

/-- Reads gaps and line breaks. `allow` is asked about each tabulator behind a
line break. -/
def scanGap (allowTab : Nat → Bool) : Nat → Gap → Scan Gap
  | 0, g => return g
  | fuel + 1, g => do
    look 1
    match ← peek with
    | some c =>
      if isGap c then
        if g.broken then
          ensure (c != '\t' || allowTab (← get).column)
          skip
          scanGap allowTab fuel g
        else
          skip
          scanGap allowTab fuel { g with blanks := c :: g.blanks }
      else if isBreak c then
        let b ← takeBreak
        if g.broken then scanGap allowTab fuel { g with moreBreaks := b ++ g.moreBreaks }
        else
          scanGap allowTab fuel { g with blanks := [], firstBreak := b, broken := true }
      else return g
    | none => return g

/-! ## Quoted scalars -/

/-- The character that a letter behind a backslash stands for. -/
def escapedChar? (c : Char) : Option Char :=
  match c with
  | '0' => some '\x00'
  | 'a' => some '\x07'
  | 'b' => some '\x08'
  | 't' | '\t' => some '\t'
  | 'n' => some '\n'
  | 'v' => some '\x0b'
  | 'f' => some '\x0c'
  | 'r' => some '\x0d'
  | 'e' => some '\x1b'
  | ' ' => some ' '
  | '\x22' => some '\x22'
  | '/' => some '/'
  | '\\' => some '\\'
  | 'N' => some '\u0085'
  | '_' => some '\u00a0'
  | 'L' => some '\u2028'
  | 'P' => some '\u2029'
  | _ => none

/-- The number of hexadecimal digits behind a letter that introduces a code. -/
def codeLength? (c : Char) : Option Nat :=
  match c with
  | 'x' => some 2
  | 'u' => some 4
  | 'U' => some 8
  | _ => none

/-- A character by its code in a fixed number of digits. -/
def scanCode : Nat → Nat → Scan Char
  | 0, n =>
    if n < 0xD800 ∨ (0xE000 ≤ n ∧ n ≤ 0x10FFFF) then return Char.ofNat n else refuse
  | count + 1, n => do
    match (← peek).bind hexValue? with
    | some d =>
      skip
      scanCode count (n * 16 + d)
    | none => refuse

/-- The characters of a quoted scalar up to a gap or the closing quote, in
reverse. Says whether an escaped line break ended them. -/
def scanQuotedWord (single : Bool) : Nat → List Char → Scan (List Char × Bool)
  | 0, _ => refuse
  | fuel + 1, acc => do
    look 2
    match ← peek with
    | none => return (acc, false)
    | some c =>
      if isGap c || isBreak c then return (acc, false)
      else if single then
        if c == '\x27' then
          if (← peekAt 1) == some '\x27' then
            skipMany 2
            scanQuotedWord single fuel ('\x27' :: acc)
          else return (acc, false)
        else
          skip
          scanQuotedWord single fuel (c :: acc)
      else if c == '\x22' then return (acc, false)
      else if c == '\\' then
        match ← peekAt 1 with
        | none => refuse
        | some d =>
          if isBreak d then
            look 3
            skip
            let _ ← takeBreak
            return (acc, true)
          else
            match escapedChar? d, codeLength? d with
            | some e, _ =>
              skipMany 2
              scanQuotedWord single fuel (e :: acc)
            | none, some n =>
              skipMany 2
              look n
              let e ← scanCode n 0
              scanQuotedWord single fuel (e :: acc)
            | none, none => refuse
      else
        skip
        scanQuotedWord single fuel (c :: acc)

/-- The rest of a quoted scalar, in reverse, with its closing quote. -/
def scanQuotedRest (single : Bool) : Nat → List Char → Scan (List Char)
  | 0, _ => refuse
  | fuel + 1, acc => do
    look 4
    let c ← get
    ensure (!c.isMark '-' && !c.isMark '.' && !c.rest.isEmpty)
    let (acc, escapedBreak) ← scanQuotedWord single (← Scan.fuel) acc
    look 1
    if (← peek) == some (if single then '\x27' else '\x22') then
      skip
      return acc
    else
      let g ← scanGap (fun _ => true) (← Scan.fuel) { Gap.none with broken := escapedBreak }
      scanQuotedRest single fuel (g.text.reverse ++ acc)

/-- A scalar in single or double quotes. -/
def scanQuoted (single : Bool) : Scan Token := do
  skip
  let cs ← scanQuotedRest single (← fuel) []
  return .scalar (String.ofList cs.reverse) (if single then .singleQuoted else .doubleQuoted)

/-! ## Plain scalars -/

/-- The characters that end a plain scalar in a flow collection. -/
def isFlowSign (c : Char) : Bool :=
  c == ',' || c == '[' || c == ']' || c == '{' || c == '}'

/-- The characters of a plain scalar up to a gap, in reverse. A colon ends it at
the end of a word; in a flow collection a colon before a sign of the collection
is refused. -/
def scanPlainWord (inFlow : Bool) : Nat → List Char → Scan (List Char)
  | 0, _ => refuse
  | fuel + 1, acc => do
    look 2
    match ← peek with
    | none => return acc
    | some c =>
      if isGap c || isBreak c then return acc
      else
        let following ← peekAt 1
        ensure (!(inFlow && c == ':' && following.any fun d => isFlowSign d || d == '?'))
        if (c == ':' && endsWord following) || (inFlow && isFlowSign c) then return acc
        else
          skip
          scanPlainWord inFlow fuel (c :: acc)

/-- The rest of a plain scalar, in reverse, and whether a line break was the last
thing read. `indent` is the least column at which it may go on. -/
def scanPlainRest (inFlow : Bool) (indent : Nat) :
    Nat → Gap → List Char → Scan (List Char × Bool)
  | 0, _, _ => refuse
  | fuel + 1, g, acc => do
    look 4
    let c ← get
    if c.isMark '-' || c.isMark '.' || c.at? 0 == some '#' then return (acc, g.broken)
    else
      let word ← scanPlainWord inFlow (← Scan.fuel) []
      let acc := if word.isEmpty then acc else word ++ (g.text.reverse ++ acc)
      let g := if word.isEmpty then g else Gap.none
      match ← peek with
      | some d =>
        if isGap d || isBreak d then
          let g ← scanGap (fun column => indent ≤ column) (← Scan.fuel) g
          if !inFlow && (← get).column < indent then return (acc, g.broken)
          else scanPlainRest inFlow indent fuel g acc
        else return (acc, g.broken)
      | none => return (acc, g.broken)

/-- A plain scalar, and whether it ended behind a line break. `indent` is the
column of the block it stands in, and it must stay to the right of that. -/
def scanPlain (inFlow : Bool) (indent : Int) : Scan (Token × Bool) := do
  let (cs, broken) ← scanPlainRest inFlow (indent + 1).toNat (← fuel) Gap.none []
  return (.scalar (String.ofList cs.reverse) .plain, broken)

/-! ## Block scalars -/

/-- Blanks up to a column, or all if no column is set. -/
def scanIndentBlanks (indent : Option Nat) : Scan Unit := do
  let c ← get
  let blanks := (c.rest.takeWhile (· == ' ')).length
  match indent with
  | none => skipMany blanks
  | some n => skipMany (min blanks (n - c.column))
  look 1

/-- The indentation and the empty lines before a line of a block scalar: the
line breaks, in reverse, and the greatest column reached. A tabulator may not
stand where indentation is expected. -/
def scanBlockBreaks (indent : Option Nat) : Nat → Nat → List Char → Scan (List Char × Nat)
  | 0, _, _ => refuse
  | fuel + 1, reached, breaks => do
    scanIndentBlanks indent
    let column := (← get).column
    let reached := max reached column
    let c ← peek
    ensure (!(c == some '\t' && indent.all fun n => column < n))
    if c.any isBreak then
      let b ← takeBreak
      scanBlockBreaks indent fuel reached (b ++ breaks)
    else return (breaks, reached)

/-- What a block scalar has read so far. -/
structure BlockText where
  /-- In reverse. -/
  text : List Char
  /-- The break of the last line. -/
  lastBreak : List Char
  /-- Those behind it, in reverse. -/
  moreBreaks : List Char
  /-- The last line began with a gap. -/
  gapFirst : Bool

/-- The lines of a block scalar. In a folded one the break between two lines that
begin without a gap is folded. -/
def scanBlockLines (folded : Bool) (indent : Nat) : Nat → BlockText → Scan BlockText
  | 0, _ => refuse
  | fuel + 1, b => do
    let c ← get
    if c.column != indent || c.rest.isEmpty then return b
    else
      let gap := (c.at? 0).any isGap
      let join :=
        if folded && b.lastBreak.head? == some '\n' && !b.gapFirst && !gap then
          foldBreaks b.lastBreak b.moreBreaks.reverse
        else b.lastBreak ++ b.moreBreaks.reverse
      let line ← takeWhile fun c => !isBreak c
      let lastBreak ← takeBreak
      let (moreBreaks, _) ← scanBlockBreaks (some indent) (← Scan.fuel) 0 []
      scanBlockLines folded indent fuel
        ⟨line.reverse ++ (join.reverse ++ b.text), lastBreak, moreBreaks, gap⟩

def chomping? (c : Option Char) : Option Chomping :=
  if c == some '+' then some .keep else if c == some '-' then some .strip else none

/-- A digit other than zero. -/
def scanIndentDigit : Scan (Option Nat) := do
  look 1
  match ← peek with
  | some c =>
    if '0' ≤ c ∧ c ≤ '9' then
      ensure (c != '0')
      skip
      return some (c.toNat - 48)
    else return none
  | none => return none

def scanChomping : Scan (Option Chomping) := do
  look 1
  let c := chomping? (← peek)
  if c.isSome then skip
  return c

/-- The header of a block scalar: how its end is kept and how far it is
indented, in either order. -/
def scanBlockHeader : Scan (Chomping × Option Nat) := do
  match ← scanChomping with
  | some c => return (c, ← scanIndentDigit)
  | none =>
    match ← scanIndentDigit with
    | some n => return ((← scanChomping).getD .clip, some n)
    | none => return (.clip, none)

/-- A block scalar in a block of the given column. Without a number in its header
its first line tells how far it is indented. -/
def scanBlock (folded : Bool) (parent : Int) : Scan Token := do
  skip
  let (chomping, increment) ← scanBlockHeader
  finishLine
  let given := increment.map fun n => (max parent 0).toNat + n
  let (breaks, reached) ← scanBlockBreaks given (← fuel) 0 []
  let indent := given.getD (max (max reached (parent + 1).toNat) 1)
  let b ← scanBlockLines folded indent (← fuel) ⟨[], [], breaks, false⟩
  let tail :=
    match chomping with
    | .strip => []
    | .clip => b.lastBreak
    | .keep => b.lastBreak ++ b.moreBreaks.reverse
  return .scalar (String.ofList (b.text.reverse ++ tail)) (if folded then .folded else .literal)

end Stepwise.Yaml
