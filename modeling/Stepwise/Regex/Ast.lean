/-!
# Patterns as written

The tree of a pattern, close to its text: flags are still switched where the
text switches them, and a class still holds the names it was written with. What
a pattern means is settled in a second step (`Stepwise.Regex.Expr`), when flags
and classes are worked out.
-/

namespace Stepwise.Regex

/-- The switches that a pattern can set: on, off, or left as they are. -/
structure FlagChange where
  ignoreCase : Option Bool := none
  multiLine : Option Bool := none
  dotAll : Option Bool := none
  swapGreed : Option Bool := none
  unicode : Option Bool := none
  crlf : Option Bool := none
  ignoreSpace : Option Bool := none
deriving Repr, Inhabited

/-- The classes named by a letter after a backslash. -/
inductive LetterClass where
  | digit
  | space
  | word
deriving Repr, DecidableEq, Inhabited

/-- How a character inside a pattern was written, as far as it matters: by two
hexadecimal digits, or in any other way. -/
structure Literal where
  char : Char
  byteEscape : Bool
deriving Repr, Inhabited

/-- The operations between the parts of a class. -/
inductive SetOp where
  | intersection
  | difference
  | symmetricDifference
deriving Repr, DecidableEq, Inhabited

/-- What stands between the brackets of a class. -/
inductive ClassItem where
  | literal (l : Literal)
  | range (low high : Literal)
  | letter (c : LetterClass) (negated : Bool)
  /-- A named property, with the name of a value where one was given. -/
  | property (name : String) (value : Option String) (negated : Bool)
  /-- A class by its name between colons. -/
  | named (name : String) (negated : Bool)
  | bracketed (inner : ClassItem) (negated : Bool)
  | union (items : List ClassItem)
  | op (kind : SetOp) (left right : ClassItem)
deriving Repr, Inhabited

/-- What the ends of words are tested for. -/
inductive WordTest where
  | boundary
  | notBoundary
  | wordStart
  | wordEnd
  | wordStartHalf
  | wordEndHalf
deriving Repr, DecidableEq, Inhabited

/-- Conditions on a place in the text. -/
inductive Assertion where
  | lineStart
  | lineEnd
  | textStart
  | textEnd
  | word (test : WordTest)
deriving Repr, DecidableEq, Inhabited

/-- How a group was opened. -/
inductive GroupKind where
  | capture (index : Nat)
  | flags (change : FlagChange)
deriving Repr, Inhabited

inductive Ast where
  | empty
  /-- Switches that hold up to the end of the group. -/
  | flags (change : FlagChange)
  | literal (l : Literal)
  | dot
  | assertion (a : Assertion)
  /-- A class without brackets: by letter or by property. -/
  | charClass (item : ClassItem)
  /-- A class in brackets. -/
  | brackets (item : ClassItem) (negated : Bool)
  | repetition (min : Nat) (max : Option Nat) (greedy : Bool) (sub : Ast)
  | group (kind : GroupKind) (sub : Ast)
  | alternation (branches : List Ast)
  | concat (items : List Ast)
deriving Repr, Inhabited

mutual

/-- How deep the parts of a class nest. A class without parts is no level of its own. -/
def ClassItem.depth : ClassItem → Nat
  | .bracketed inner _ => depth inner + 1
  | .union [] => 0
  | .union items => depthItems items + 1
  | .op _ left right => max (depth left) (depth right) + 1
  | _ => 0

def ClassItem.depthItems : List ClassItem → Nat
  | [] => 0
  | x :: rest => max (depth x) (depthItems rest)

end

mutual

/-- How deep the parts of a pattern nest. -/
def Ast.depth : Ast → Nat
  | .brackets item _ => item.depth + 1
  | .repetition _ _ _ sub => depth sub + 1
  | .group _ sub => depth sub + 1
  | .alternation branches => depthItems branches + 1
  | .concat items => depthItems items + 1
  | _ => 0

def Ast.depthItems : List Ast → Nat
  | [] => 0
  | x :: rest => max (depth x) (depthItems rest)

end

/-- A list of parts that follow one another, as one part. -/
def Ast.ofItems : List Ast → Ast
  | [] => .empty
  | [x] => x
  | xs => .concat xs

/-- A list of branches, as one part. -/
def Ast.ofBranches : List Ast → Ast
  | [] => .empty
  | [x] => x
  | xs => .alternation xs

/-- A list of members of a class, as one member. -/
def ClassItem.ofItems : List ClassItem → ClassItem
  | [x] => x
  | xs => .union xs

end Stepwise.Regex
