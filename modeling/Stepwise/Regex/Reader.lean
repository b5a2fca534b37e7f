import Stepwise.Regex.Ast
import Stepwise.Text.Blank
import Stepwise.Unicode.Recent

/-!
# Reading a pattern

A reader by recursive descent. It keeps the rest of the text, whether white
space and comments are passed over, the number of capture groups opened so far,
and their names; a pattern that cannot be read is nothing at all, since only the
fact is ever reported. The functions that call one another take a fuel that the
length of the text bounds: each call has taken at least one character since the
last.
-/

namespace Stepwise.Regex

open Text (isWhite)

/-- Where the reading of a pattern stands. -/
structure Cursor where
  rest : List Char
  /-- White space and comments are passed over. -/
  ignoreSpace : Bool
  /-- The capture groups opened so far. -/
  groups : Nat
  names : List String

abbrev Reader := StateT Cursor Option

namespace Reader

/-- A pattern that cannot be read. -/
def refuse {α : Type} : Reader α := fun _ => none

def rest : Reader (List Char) := do return (← get).rest

def peek : Reader (Option Char) := do return (← get).rest.head?

def setRest (cs : List Char) : Reader Unit := modify fun c => { c with rest := cs }

/-- The next character, which must be there. -/
def next : Reader Char := do
  match ← peek with
  | some c => return c
  | none => refuse

/-- Passes over one character. -/
def bump : Reader Unit := modify fun c => { c with rest := c.rest.tail }

/-- What is left after white space and comments. A comment runs from a number
sign to the end of its line. -/
def dropSpace (inComment : Bool) : List Char → List Char
  | [] => []
  | c :: rest =>
    if inComment then dropSpace (c != '\n') rest
    else if isWhite c then dropSpace false rest
    else if c == '#' then dropSpace true rest
    else c :: rest

/-- Passes over white space and comments, where they are passed over. -/
def skipSpace : Reader Unit := modify fun c =>
  if c.ignoreSpace then { c with rest := dropSpace false c.rest } else c

def bumpSpace : Reader Unit := do bump; skipSpace

/-- Takes the given characters, if they come next. -/
def take? (s : String) : Reader Bool := do
  let cs ← rest
  if s.toList.isPrefixOf cs then
    setRest (cs.drop s.toList.length)
    return true
  else return false

/-- The character after the next one, white space aside. Behind a number sign
the comment itself is looked at, not what follows it. -/
def peekSecond : Reader (Option Char) := do
  let c ← get
  let after := c.rest.tail
  if c.ignoreSpace then
    match after.dropWhile isWhite with
    | '#' :: rest => return (rest.dropWhile isWhite).head?
    | rest => return rest.head?
  else return after.head?

/-! ## Numbers and characters -/

def isDigit (c : Char) : Bool := '0' ≤ c && c ≤ '9'

def hexValue? (c : Char) : Option Nat :=
  if isDigit c then some (c.toNat - 48)
  else if 'a' ≤ c ∧ c ≤ 'f' then some (c.toNat - 87)
  else if 'A' ≤ c ∧ c ≤ 'F' then some (c.toNat - 55)
  else none

def maxCount : Nat := UInt32.size - 1

def dropWhite : Reader Unit := modify fun c => { c with rest := c.rest.dropWhile isWhite }

/-- The digits that come next. -/
def digits : Nat → Reader (List Char)
  | 0 => return []
  | fuel + 1 => do
    match ← peek with
    | some c =>
      if isDigit c then
        bumpSpace
        return c :: (← digits fuel)
      else return []
    | none => return []

/-- A decimal number, with white space around it; nothing if no digit is there.
A number beyond thirty-two bits is refused. -/
def decimal : Reader (Option Nat) := do
  dropWhite
  let ds ← digits (← rest).length
  dropWhite
  skipSpace
  if ds.isEmpty then return none
  else
    let n := ds.foldl (fun n c => n * 10 + (c.toNat - 48)) 0
    if n ≤ maxCount then return some n else refuse

/-- The character with a code. -/
def charOfCode (n : Nat) : Reader Char :=
  if n < 0xD800 ∨ (0xE000 ≤ n ∧ n < 0x110000) then return Char.ofNat n else refuse

/-- A fixed number of hexadecimal digits. -/
def hexFixed : Nat → Nat → Reader Nat
  | 0, n => return n
  | count + 1, n => do
    match hexValue? (← next) with
    | some d =>
      bumpSpace
      hexFixed count (n * 16 + d)
    | none => refuse

/-- Hexadecimal digits up to a closing brace. -/
def hexBraced : Nat → Option Nat → Reader Nat
  | 0, _ => refuse
  | fuel + 1, n => do
    let c ← next
    if c == '}' then
      bumpSpace
      match n with
      | some n => return n
      | none => refuse
    else
      match hexValue? c with
      | some d =>
        bumpSpace
        hexBraced fuel (some (min (n.getD 0 * 16 + d) 0x110000))
      | none => refuse

/-- The rest of an escape by code, behind its letter. -/
def hexEscape (letter : Char) : Reader Literal := do
  if (← next) == '{' then
    bumpSpace
    return ⟨← charOfCode (← hexBraced ((← rest).length + 1) none), false⟩
  else
    let width := if letter == 'x' then 2 else if letter == 'u' then 4 else 8
    return ⟨← charOfCode (← hexFixed width 0), letter == 'x'⟩

/-! ## Escapes -/

/-- Characters with a meaning of their own, which a backslash takes away. -/
def isMeta (c : Char) : Bool := "\\.+*?()|[]\x7b\x7d^$#&-~".toList.contains c

/-- Whether a backslash before a character means the character. -/
def isEscapable (c : Char) : Bool :=
  isMeta c || (c.toNat < 0x80 && !c.isAlphanum && c != '<' && c != '>')

/-- A character or a class, as both may stand inside a class and outside. -/
inductive Atom where
  | literal (l : Literal)
  | assertion (a : Assertion)
  | item (i : ClassItem)

/-- The text of a property up to the closing brace. -/
def propertyText : Nat → List Char → Reader (List Char)
  | 0, _ => refuse
  | fuel + 1, acc => do
    let c ← next
    if c == '}' then
      bump
      return acc.reverse
    else
      bumpSpace
      propertyText fuel (c :: acc)

/-- Cuts a text at the first place where a separator stands. -/
def cutAt (separator : List Char) : List Char → Option (List Char × List Char)
  | [] => none
  | c :: rest =>
    if separator.isPrefixOf (c :: rest) then some ([], (c :: rest).drop separator.length)
    else (cutAt separator rest).map fun p => (c :: p.1, p.2)

/-- A property behind its letter: one more letter, or a name in braces, with the
name of a value perhaps. -/
def property (negated : Bool) : Reader ClassItem := do
  let c ← next
  if c == '{' then
    bumpSpace
    let text ← propertyText ((← rest).length + 1) []
    match cutAt ['!', '='] text, cutAt [':'] text, cutAt ['='] text with
    | some (name, value), _, _ =>
      return .property (String.ofList name) (some (String.ofList value)) (!negated)
    | none, some (name, value), _ | none, none, some (name, value) =>
      return .property (String.ofList name) (some (String.ofList value)) negated
    | none, none, none => return .property (String.ofList text) none negated
  else if c == '\\' then refuse
  else
    bumpSpace
    return .property (String.ofList [c]) none negated

/-- The letters and hyphens of the name of a word test. -/
def wordTestName : Nat → Reader (List Char)
  | 0 => return []
  | fuel + 1 => do
    match ← peek with
    | some c =>
      if c.isAlpha || c == '-' then
        bumpSpace
        return c :: (← wordTestName fuel)
      else return []
    | none => return []

/-- What follows the letter of a word boundary. A brace may open the name of a
test; if no letter follows the brace it is left for a repetition. -/
def wordBoundary : Reader WordTest := do
  match ← peek with
  | some '{' =>
    let before ← rest
    bumpSpace
    let c ← next
    if c.isAlpha || c == '-' then
      let name ← wordTestName ((← rest).length + 1)
      if (← next) != '}' then refuse
      else
        bump
        match String.ofList name with
        | "start" => return .wordStart
        | "end" => return .wordEnd
        | "start-half" => return .wordStartHalf
        | "end-half" => return .wordEndHalf
        | _ => refuse
    else
      setRest before
      return .boundary
  | _ => return .boundary

/-- What follows a backslash. -/
def escape : Reader Atom := do
  let c ← next
  if isDigit c then refuse
  else if c == 'x' || c == 'u' || c == 'U' then
    bumpSpace
    return .literal (← hexEscape c)
  else if c == 'p' || c == 'P' then
    bumpSpace
    return .item (← property (c == 'P'))
  else
    bump
    if isEscapable c then return .literal ⟨c, false⟩
    else
      match c with
      | 'd' => return .item (.letter .digit false)
      | 'D' => return .item (.letter .digit true)
      | 's' => return .item (.letter .space false)
      | 'S' => return .item (.letter .space true)
      | 'w' => return .item (.letter .word false)
      | 'W' => return .item (.letter .word true)
      | 'a' => return .literal ⟨'\x07', false⟩
      | 'f' => return .literal ⟨'\x0c', false⟩
      | 't' => return .literal ⟨'\t', false⟩
      | 'n' => return .literal ⟨'\n', false⟩
      | 'r' => return .literal ⟨'\x0d', false⟩
      | 'v' => return .literal ⟨'\x0b', false⟩
      | 'A' => return .assertion .textStart
      | 'z' => return .assertion .textEnd
      | 'b' => return .assertion (.word (← wordBoundary))
      | 'B' => return .assertion (.word .notBoundary)
      | '<' => return .assertion (.word .wordStart)
      | '>' => return .assertion (.word .wordEnd)
      | _ => refuse

/-! ## Classes in brackets -/

/-- The names of the classes between colons. -/
def classNames : List String :=
  ["alnum", "alpha", "ascii", "blank", "cntrl", "digit", "graph", "lower", "print",
    "punct", "space", "upper", "word", "xdigit"]

/-- A class between colons, if the text has one. -/
def namedClass? (cs : List Char) : Option (ClassItem × List Char) :=
  match cs with
  | '[' :: ':' :: rest =>
    let (negated, rest) :=
      match rest with
      | '^' :: rest => (true, rest)
      | _ => (false, rest)
    let name := rest.takeWhile (· != ':')
    match rest.drop name.length with
    | ':' :: ']' :: after =>
      if classNames.contains (String.ofList name) then
        some (.named (String.ofList name) negated, after)
      else none
    | _ => none
  | _ => none

/-- One member of a class: a character as it stands, or an escape. -/
def classAtom : Reader Atom := do
  let c ← next
  bump
  if c == '\\' then escape else return .literal ⟨c, false⟩

def Atom.toItem : Atom → Reader ClassItem
  | .literal l => return .literal l
  | .item i => return i
  | .assertion _ => refuse

def Atom.toLiteral : Atom → Reader Literal
  | .literal l => return l
  | _ => refuse

/-- One member of a class, or a range between two. A hyphen before the closing
bracket, or before another hyphen, makes no range. -/
def classRange : Reader ClassItem := do
  let low ← classAtom
  skipSpace
  if (← next) != '-' then low.toItem
  else
    let second ← peekSecond
    if second == some ']' || second == some '-' then low.toItem
    else
      bumpSpace
      let _ ← next
      let high ← classAtom
      let a ← low.toLiteral
      let b ← high.toLiteral
      if a.char ≤ b.char then return .range a b else refuse

/-- Hyphens at the front of a class stand for themselves. -/
def leadingHyphens : Nat → Reader (List ClassItem)
  | 0 => refuse
  | fuel + 1 => do
    if (← next) == '-' then
      bumpSpace
      return .literal ⟨'-', false⟩ :: (← leadingHyphens fuel)
    else return []

/-- The opening of a class: whether it is negated, and the characters that stand
for themselves because they come first. -/
def classOpening : Reader (Bool × List ClassItem) := do
  bumpSpace
  let negated := (← next) == '^'
  if negated then bumpSpace
  let hyphens ← leadingHyphens ((← rest).length + 1)
  if hyphens.isEmpty && (← next) == ']' then
    bumpSpace
    let _ ← next
    return (negated, [.literal ⟨']', false⟩])
  else return (negated, hyphens)

/-- Applies a pending operation to the members that follow it. -/
def closeOp (pending : Option (SetOp × ClassItem)) (right : ClassItem) : ClassItem :=
  match pending with
  | none => right
  | some (op, left) => .op op left right

mutual

/-- A class from its opening bracket on. -/
def classBody : Nat → Reader (Bool × ClassItem)
  | 0 => refuse
  | fuel + 1 => do
    let (negated, first) ← classOpening
    let item ← classMembers fuel none first.reverse
    return (negated, item)

/-- The members of a class up to its closing bracket. `pending` is what stands
left of the last operation, `acc` the members since, in reverse. -/
def classMembers : Nat → Option (SetOp × ClassItem) → List ClassItem → Reader ClassItem
  | 0, _, _ => refuse
  | fuel + 1, pending, acc => do
    skipSpace
    let c ← next
    let left := closeOp pending (ClassItem.ofItems acc.reverse)
    if c == '[' then
      match namedClass? (← rest) with
      | some (item, after) =>
        setRest after
        classMembers fuel pending (item :: acc)
      | none =>
        let (negated, inner) ← classBody fuel
        classMembers fuel pending (.bracketed inner negated :: acc)
    else if c == ']' then
      bump
      return left
    else if ← take? "&&" then classMembers fuel (some (.intersection, left)) []
    else if ← take? "--" then classMembers fuel (some (.difference, left)) []
    else if ← take? "~~" then classMembers fuel (some (.symmetricDifference, left)) []
    else
      let item ← classRange
      classMembers fuel pending (item :: acc)

end

/-! ## Groups and flags -/

def FlagChange.isSet (f : FlagChange) (c : Char) : Option Bool :=
  match c with
  | 'i' => f.ignoreCase
  | 'm' => f.multiLine
  | 's' => f.dotAll
  | 'U' => f.swapGreed
  | 'u' => f.unicode
  | 'R' => f.crlf
  | 'x' => f.ignoreSpace
  | _ => none

def FlagChange.switch (f : FlagChange) (c : Char) (on : Bool) : Option FlagChange :=
  match c with
  | 'i' => some { f with ignoreCase := some on }
  | 'm' => some { f with multiLine := some on }
  | 's' => some { f with dotAll := some on }
  | 'U' => some { f with swapGreed := some on }
  | 'u' => some { f with unicode := some on }
  | 'R' => some { f with crlf := some on }
  | 'x' => some { f with ignoreSpace := some on }
  | _ => none

/-- The flags of a group up to its colon or closing bracket. A flag may not be
named twice, nor may the sign that switches flags off, and that sign may not
come last. `count` is the number of flags and signs. -/
def flags : Nat → FlagChange → Bool → Bool → Nat → Reader (FlagChange × Nat)
  | 0, _, _, _, _ => refuse
  | fuel + 1, f, negated, danglingSign, count => do
    let c ← next
    if c == ':' || c == ')' then
      if danglingSign then refuse else return (f, count)
    else if c == '-' then
      if negated then refuse
      else
        bump
        flags fuel f true true (count + 1)
    else if (FlagChange.isSet f c).isSome then refuse
    else
      match FlagChange.switch f c (!negated) with
      | none => refuse
      | some f =>
        bump
        flags fuel f negated false (count + 1)

/-- Whether a character may stand in the name of a group, or begin it. -/
def isNameChar (first : Bool) (c : Char) : Bool :=
  if first then c == '_' || Unicode.Recent.alphabetic.contains c
  else
    c == '_' || c == '.' || c == '[' || c == ']' || Unicode.Recent.alphanumeric.contains c

/-- The name of a group up to its closing angle. -/
def groupName : Nat → List Char → Reader String
  | 0, _ => refuse
  | fuel + 1, acc => do
    let c ← next
    if c == '>' then
      bump
      if acc.isEmpty then refuse else return String.ofList acc.reverse
    else if isNameChar acc.isEmpty c then
      bump
      groupName fuel (c :: acc)
    else refuse

/-- The number of the next capture group. -/
def openCapture : Reader Nat := modifyGet fun c =>
  (c.groups + 1, { c with groups := c.groups + 1 })

/-- What opens with a parenthesis: a group, or a change of flags alone. -/
inductive Opening where
  | group (kind : GroupKind)
  | change (f : FlagChange)

/-- A capture group with a name, which no other group may have. -/
def namedCapture : Reader Opening := do
  let index ← openCapture
  let name ← groupName ((← rest).length + 1) []
  if (← get).names.contains name then refuse
  else
    modify fun c => { c with names := name :: c.names }
    return .group (.capture index)

/-- The opening of a group, behind its parenthesis. -/
def groupOpening : Reader Opening := do
  skipSpace
  if ← take? "?=" then refuse
  else if ← take? "?!" then refuse
  else if ← take? "?<=" then refuse
  else if ← take? "?<!" then refuse
  else if ← take? "?P<" then namedCapture
  else if ← take? "?<" then namedCapture
  else if ← take? "?" then
    let (f, count) ← flags ((← rest).length + 1) {} false false 0
    let close ← next
    bump
    if close == ')' then
      if count = 0 then refuse else return .change f
    else return .group (.flags f)
  else return .group (.capture (← openCapture))

/-! ## Repetitions -/

/-- Whether something can be repeated: neither nothing nor a change of flags. -/
def isRepeatable : Ast → Bool
  | .empty | .flags _ => false
  | _ => true

/-- The mark that makes a repetition prefer few rounds. -/
def lazyMark : Reader Bool := do
  if (← peek) == some '?' then
    bump
    return true
  else return false

/-- The bounds of a repetition, behind the opening brace. -/
def bounds : Reader (Nat × Option Nat) := do
  skipSpace
  let _ ← next
  let low ← decimal
  if (← next) != ',' then
    if (← next) != '}' then refuse
    else
      match low with
      | some n => return (n, some n)
      | none => refuse
  else
    bumpSpace
    let c ← next
    match low with
    | none => refuse
    | some n =>
      if c == '}' then return (n, none)
      else
        match ← decimal with
        | none => refuse
        | some m =>
          if (← next) != '}' then refuse
          else if n ≤ m then return (n, some m) else refuse

/-! ## The pattern -/

/-- A single part that no bracket opens. -/
def primitive : Reader Ast := do
  let c ← next
  bump
  match c with
  | '\\' =>
    match ← escape with
    | .literal l => return .literal l
    | .assertion a => return .assertion a
    | .item i => return .charClass i
  | '.' => return .dot
  | '^' => return .assertion .lineStart
  | '$' => return .assertion .lineEnd
  | c => return .literal ⟨c, false⟩

/-- Repeats the last of the parts, which are in reverse. -/
def repeatLast (min : Nat) (max : Option Nat) (items : List Ast) : Reader (List Ast) := do
  match items with
  | [] => refuse
  | last :: before =>
    if isRepeatable last then
      return .repetition min max (!(← lazyMark)) last :: before
    else refuse

/-- Alternatives up to the closing parenthesis of the group or the end of the
text, neither of which is taken. Both lists are in reverse. -/
def alternatives : Nat → List Ast → List Ast → Reader Ast
  | 0, _, _ => refuse
  | fuel + 1, branches, items => do
    skipSpace
    match ← peek with
    | none => return Ast.ofBranches (Ast.ofItems items.reverse :: branches).reverse
    | some c =>
      match c with
      | ')' => return Ast.ofBranches (Ast.ofItems items.reverse :: branches).reverse
      | '(' =>
        bump
        match ← groupOpening with
        | .change f =>
          if let some on := f.ignoreSpace then
            modify fun c => { c with ignoreSpace := on }
          alternatives fuel branches (.flags f :: items)
        | .group kind =>
          let before := (← get).ignoreSpace
          if let .flags f := kind then
            if let some on := f.ignoreSpace then
              modify fun c => { c with ignoreSpace := on }
          let sub ← alternatives fuel [] []
          if (← next) != ')' then refuse
          else
            modify fun c => { c with ignoreSpace := before }
            bump
            alternatives fuel branches (.group kind sub :: items)
      | '|' =>
        bump
        alternatives fuel (Ast.ofItems items.reverse :: branches) []
      | '[' =>
        let (negated, item) ← classBody fuel
        alternatives fuel branches (.brackets item negated :: items)
      | '?' =>
        bump
        alternatives fuel branches (← repeatLast 0 (some 1) items)
      | '*' =>
        bump
        alternatives fuel branches (← repeatLast 0 none items)
      | '+' =>
        bump
        alternatives fuel branches (← repeatLast 1 none items)
      | '{' =>
        bump
        let (low, high) ← bounds
        bumpSpace
        alternatives fuel branches (← repeatLast low high items)
      | _ =>
        let item ← primitive
        alternatives fuel branches (item :: items)

/-- How deep the parts of a pattern may nest. -/
def nestLimit : Nat := 250

end Reader

/-- The tree of a pattern, or nothing if the pattern is not one. -/
def Ast.parse (pattern : String) : Option Ast :=
  let cs := pattern.toList
  match Reader.alternatives (2 * cs.length + 2) [] [] ⟨cs, false, 0, []⟩ with
  | some (ast, cursor) =>
    if cursor.rest.isEmpty && decide (ast.depth ≤ Reader.nestLimit) then some ast else none
  | none => none

end Stepwise.Regex
