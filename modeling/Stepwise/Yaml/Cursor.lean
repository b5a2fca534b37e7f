/-!
# Reading a text by line and column

A cursor holds the rest of a text and says where in it the rest begins. Columns
matter to a document, since its structure is told by indentation. A `Scan` reads
from a cursor and may find that the text is not well formed; why it is not is
never reported, so a failed scan is nothing at all.

Five characters break a line: the line feed, the carriage return, the next-line
character and the two separators of lines and paragraphs. A carriage return with
a line feed behind it is one break.

Most controls may not stand in a text. A text is read in chunks, and a chunk with
such a character cannot be read at all, while those before it can. So what is
wrong with the text may come to light before the character does, or behind it:
that depends on how far a scan looks ahead, and therefore every scan says how
many characters it has to see (`Scan.look`).
-/

namespace Stepwise.Yaml

structure Cursor where
  /-- What can be read. -/
  rest : List Char
  /-- Nothing stands behind `rest`. -/
  whole : Bool
  /-- The length of the text, in bytes. -/
  size : Nat
  /-- Bytes read so far. -/
  index : Nat
  /-- Line breaks read so far. -/
  line : Nat
  /-- Characters read since the last line break. -/
  column : Nat
deriving Repr, Inhabited

/-- Characters that may stand in a text: tabulators, line breaks, and all that
are neither controls nor reserved. -/
def isAllowed (c : Char) : Bool :=
  let n := c.toNat
  n == 9 || n == 10 || n == 13 || (0x20 ≤ n && n ≤ 0x7E) || n == 0x85 ||
    (0xA0 ≤ n && n ≤ 0xD7FF) || (0xE000 ≤ n && n ≤ 0xFFFD) || 0x10000 ≤ n

def isBreak (c : Char) : Bool :=
  c == '\n' || c == '\x0d' || c == '\u0085' || c == '\u2028' || c == '\u2029'

/-- A blank or a tabulator. -/
def isGap (c : Char) : Bool := c == ' ' || c == '\t'

/-- Whether a line ends here. -/
def endsLine (c : Option Char) : Bool := c.all isBreak

/-- Whether a word ends here. -/
def endsWord (c : Option Char) : Bool := c.all fun c => isGap c || isBreak c

/-- The characters of names: letters and digits of ASCII, the hyphen and the low
line. -/
def isNameChar (c : Char) : Bool := c.isAlphanum || c == '-' || c == '_'

def hexValue? (c : Char) : Option Nat :=
  if '0' ≤ c ∧ c ≤ '9' then some (c.toNat - 48)
  else if 'a' ≤ c ∧ c ≤ 'f' then some (c.toNat - 87)
  else if 'A' ≤ c ∧ c ≤ 'F' then some (c.toNat - 55)
  else none

namespace Cursor

/-- The greatest length of a chunk in bytes. -/
def chunkSize : Nat := 16384

/-- The chunks of a text that can be read, and whether those are all. `before`
holds the chunks in front, `chunk` the one that `cs` begins in, both in reverse,
and `room` tells how many bytes the chunk has left. No chunk ends within a
character. -/
def readable (before chunk : List Char) (room : Nat) : List Char → List Char × Bool
  | [] => ((chunk ++ before).reverse, true)
  | c :: cs =>
    if c.utf8Size ≤ room then
      if isAllowed c then readable before (c :: chunk) (room - c.utf8Size) cs
      else (before.reverse, false)
    else if isAllowed c then readable (chunk ++ before) [c] (chunkSize - c.utf8Size) cs
    else ((chunk ++ before).reverse, false)

def ofText (s : String) : Cursor :=
  let (rest, whole) := readable [] [] chunkSize s.toList
  ⟨rest, whole, s.utf8ByteSize, 0, 0, 0⟩

/-- The character at a distance, if the text goes so far. -/
def at? (c : Cursor) (n : Nat) : Option Char := c.rest[n]?

/-- Whether so many characters can be seen from here, or else the end of the
text. -/
def sees (c : Cursor) (n : Nat) : Bool := c.whole || !(c.rest.drop (n - 1)).isEmpty

/-- Passes over characters that break no line. -/
def skip (c : Cursor) (n : Nat) : Cursor :=
  { c with
    rest := c.rest.drop n
    index := (c.rest.take n).foldl (fun size c => size + c.utf8Size) c.index
    column := c.column + n }

/-- Passes over a line break, and says what it stands for in a scalar: a line
feed, or a separator as it is. -/
def takeBreak (c : Cursor) : List Char × Cursor :=
  match c.rest with
  | '\x0d' :: '\n' :: rest =>
    (['\n'], { c with rest, index := c.index + 2, line := c.line + 1, column := 0 })
  | b :: rest =>
    if isBreak b then
      let kept := if b == '\u2028' || b == '\u2029' then b else '\n'
      ([kept], { c with rest, index := c.index + b.utf8Size, line := c.line + 1, column := 0 })
    else ([], c)
  | [] => ([], c)

/-- Whether the mark of a document's start or end stands here: three of the
character, at the start of a line, and nothing joined to them. -/
def isMark (c : Cursor) (m : Char) : Bool :=
  c.column == 0 && c.at? 0 == some m && c.at? 1 == some m && c.at? 2 == some m &&
    endsWord (c.at? 3)

end Cursor

abbrev Scan := StateT Cursor Option

namespace Scan

/-- The text is not well formed. -/
def refuse {α : Type} : Scan α := fun _ => none

def peekAt (n : Nat) : Scan (Option Char) := do return (← get).at? n

def peek : Scan (Option Char) := peekAt 0

def skipMany (n : Nat) : Scan Unit := modify fun c => c.skip n

def skip : Scan Unit := skipMany 1

/-- Goes on only if the condition holds. -/
def ensure (b : Bool) : Scan Unit := if b then return () else refuse

/-- Goes on only if so many characters can be seen, or the end of the text. -/
def look (n : Nat) : Scan Unit := do ensure ((← get).sees n)

/-- Takes characters as long as they are of a kind that breaks no line. The one
that ends them is looked at. -/
def takeWhile (p : Char → Bool) : Scan (List Char) := do
  let taken := (← get).rest.takeWhile p
  skipMany taken.length
  look 1
  return taken

/-- Passes over a line break, if one stands here. The second character is looked
at, since a break may have two. -/
def takeBreak : Scan (List Char) := do
  look 2
  modifyGet fun c => c.takeBreak

def skipGaps : Scan Unit := do
  let _ ← takeWhile isGap

/-- Passes over what follows on a line: gaps, and a comment perhaps. Anything
else is refused. -/
def finishLine : Scan Unit := do
  skipGaps
  if (← peek) == some '#' then
    let _ ← takeWhile fun c => !isBreak c
  ensure (endsLine (← peek))
  let _ ← takeBreak

/-- More than the number of characters that are left. -/
def fuel : Scan Nat := do return (← get).size + 2

end Scan

end Stepwise.Yaml
