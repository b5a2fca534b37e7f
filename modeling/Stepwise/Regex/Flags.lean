import Stepwise.Regex.Expr
import Stepwise.Unicode.CaseFold
import Stepwise.Unicode.Query

/-!
# From patterns to expressions

Here the flags of a pattern are worked out, and its classes. A pattern that asks
for something that does not exist (an unknown property, a byte that is no
character) has no expression.
-/

namespace Stepwise.Regex

open Unicode (CharSet)

/-! ## Flags and classes -/

/-- The switches in force at a place of a pattern. -/
structure Flags where
  ignoreCase : Bool
  multiLine : Bool
  dotAll : Bool
  swapGreed : Bool
  unicode : Bool
  crlf : Bool
deriving Repr, Inhabited

namespace Flags

/-- The switches at the start of a pattern: all off save that classes are those
of the standard. -/
def initial : Flags := ⟨false, false, false, false, true, false⟩

def apply (f : Flags) (c : FlagChange) : Flags :=
  { ignoreCase := c.ignoreCase.getD f.ignoreCase
    multiLine := c.multiLine.getD f.multiLine
    dotAll := c.dotAll.getD f.dotAll
    swapGreed := c.swapGreed.getD f.swapGreed
    unicode := c.unicode.getD f.unicode
    crlf := c.crlf.getD f.crlf }

/-- The ASCII characters. -/
def ascii : CharSet := CharSet.ofRanges [(0, 0x7F)]

def isAscii (s : CharSet) : Bool := s.ranges.all fun r => decide (r.2 < 0x80)

/-- All case variants of a set, or those in ASCII. -/
def closeCase (f : Flags) (s : CharSet) : CharSet :=
  if f.unicode then s.closeCase
  else s.union ((s.inter ascii).closeCase.inter ascii)

/-- A set with the case variants that the flags ask for, turned round if
negated. Outside the standard a set may hold ASCII characters only. -/
def finish (f : Flags) (negated : Bool) (s : CharSet) : Option CharSet :=
  let s := if f.ignoreCase then f.closeCase s else s
  let s := if negated then s.complement else s
  if f.unicode || isAscii s then some s else none

def letterSet (f : Flags) : LetterClass → CharSet
  | .digit => if f.unicode then Unicode.decimalDigit else CharSet.ofRanges [(0x30, 0x39)]
  | .space =>
    if f.unicode then Unicode.whiteSpace else CharSet.ofRanges [(9, 13), (0x20, 0x20)]
  | .word =>
    if f.unicode then Unicode.wordChar
    else CharSet.ofRanges [(0x30, 0x39), (0x41, 0x5A), (0x5F, 0x5F), (0x61, 0x7A)]

/-- A class by letter, which is closed under case as it is. -/
def letterClass (f : Flags) (c : LetterClass) (negated : Bool) : Option CharSet :=
  let s := f.letterSet c
  let s := if negated then s.complement else s
  if f.unicode || isAscii s then some s else none

/-- The classes named between colons. -/
def namedSet (name : String) : CharSet :=
  CharSet.ofTable <|
    match name with
    | "alnum" => "30-39 41-5a 61-7a"
    | "alpha" => "41-5a 61-7a"
    | "ascii" => "0-7f"
    | "blank" => "9 20"
    | "cntrl" => "0-1f 7f"
    | "digit" => "30-39"
    | "graph" => "21-7e"
    | "lower" => "61-7a"
    | "print" => "20-7e"
    | "punct" => "21-2f 3a-40 5b-60 7b-7e"
    | "space" => "9-d 20"
    | "upper" => "41-5a"
    | "word" => "30-39 41-5a 5f 61-7a"
    | "xdigit" => "30-39 41-46 61-66"
    | _ => ""

/-- A character of a class. A byte above ASCII is no character. -/
def literalSet (f : Flags) (l : Literal) : Option CharSet :=
  if f.unicode || decide (l.char.toNat < 0x80) then some (CharSet.singleton l.char) else none

def setOp : SetOp → CharSet → CharSet → CharSet
  | .intersection, s, t => s.inter t
  | .difference, s, t => s.diff t
  | .symmetricDifference, s, t => s.symmDiff t

mutual

/-- The characters of a class. -/
def classSet (f : Flags) : ClassItem → Option CharSet
  | .literal l => f.literalSet l
  | .range low high => do
    let _ ← f.literalSet low
    let _ ← f.literalSet high
    return CharSet.ofRanges [(low.char.toNat, high.char.toNat)]
  | .letter c negated => f.letterClass c negated
  | .property name value negated =>
    if f.unicode then do
      let s ←
        match value with
        | none => Unicode.named? name
        | some value => Unicode.valued? name value
      f.finish negated s
    else none
  | .named name negated => f.finish negated (namedSet name)
  | .bracketed inner negated => do f.finish negated (← classSet f inner)
  | .union items => unionSet f items
  | .op kind left right => do
    let s ← classSet f left
    let t ← classSet f right
    if f.ignoreCase then return setOp kind (f.closeCase s) (f.closeCase t)
    else return setOp kind s t

def unionSet (f : Flags) : List ClassItem → Option CharSet
  | [] => some CharSet.empty
  | x :: rest => do return (← classSet f x).union (← unionSet f rest)

end

/-- A character outside a class, with its case variants. -/
def literalExpr (f : Flags) (l : Literal) : Option Expr :=
  let s := CharSet.singleton l.char
  if !f.unicode && l.byteEscape && decide (0x7F < l.char.toNat) then none
  else if f.ignoreCase then
    some (.mkSet (if f.unicode || isAscii s then f.closeCase s else s))
  else some (.text [l.char])

/-- Any character, or any that does not end a line. -/
def dotExpr (f : Flags) : Option Expr :=
  if !f.unicode then none
  else if f.dotAll then some (.set CharSet.all)
  else if f.crlf then some (.set (CharSet.ofRanges [(10, 10), (13, 13)]).complement)
  else some (.set (CharSet.singleton '\n').complement)

def look (f : Flags) : Assertion → Look
  | .lineStart => if f.multiLine then .lineStart f.crlf else .textStart
  | .lineEnd => if f.multiLine then .lineEnd f.crlf else .textEnd
  | .textStart => .textStart
  | .textEnd => .textEnd
  | .word test => .word test f.unicode

end Flags

/-! ## From a pattern to its expression -/

mutual

/-- The expression of a part, and the flags in force behind it. -/
def Ast.expr (f : Flags) : Ast → Option (Expr × Flags)
  | .empty => some (.empty, f)
  | .flags change => some (.empty, f.apply change)
  | .literal l => (f.literalExpr l).map (·, f)
  | .dot => f.dotExpr.map (·, f)
  | .assertion a => some (.look (f.look a), f)
  | .charClass item => (f.classSet item).map fun s => (.mkSet s, f)
  | .brackets item negated => do
    let s ← f.finish negated (← f.classSet item)
    return (.mkSet s, f)
  | .repetition min max greedy sub => do
    let (e, _) ← Ast.expr f sub
    return (Expr.mkRepeat min max (greedy != f.swapGreed) e, f)
  | .group (.capture index) sub => do
    let (e, _) ← Ast.expr f sub
    return (.capture index e, f)
  | .group (.flags change) sub => do
    let (e, _) ← Ast.expr (f.apply change) sub
    return (e, f)
  | .alternation branches => do
    let (es, f) ← Ast.exprs f branches
    return (.mkAlternation es, f)
  | .concat items => do
    let (es, f) ← Ast.exprs f items
    return (.mkConcat es, f)

/-- The expressions of some parts in order: flags that one part switches hold in
those behind it. -/
def Ast.exprs (f : Flags) : List Ast → Option (List Expr × Flags)
  | [] => some ([], f)
  | x :: rest => do
    let (e, f) ← Ast.expr f x
    let (es, f) ← Ast.exprs f rest
    return (e :: es, f)

end

/-- The expression of a pattern. -/
def Ast.toExpr (a : Ast) : Option Expr := (a.expr Flags.initial).map (·.1)

end Stepwise.Regex
