import Stepwise.Yaml.Cursor
import Stepwise.Yaml.Tag
import Stepwise.Yaml.Token

/-!
# Anchors, tags and directives

The tokens that consist of names. A tag is a handle and a suffix; what a handle
stands for is declared by the directives at the head of a document. In a suffix
characters may be written by their bytes in hexadecimal.
-/

namespace Stepwise.Yaml

open Scan

/-- The name of an anchor or an alias, behind its sign. It must not be empty,
and something that ends it must follow. -/
def scanAnchorName : Scan String := do
  skip
  let name ← takeWhile isNameChar
  ensure (!name.isEmpty)
  let c ← peek
  ensure (endsWord c || c.any fun c => "?:,]\x7d%@`".toList.contains c)
  return String.ofList name

/-- A character of a suffix other than letters and digits. A suffix between
angles may hold the signs of flow collections as well. -/
def isUriChar (verbatim : Bool) (c : Char) : Bool :=
  isNameChar c || ";/?:@&=+$.!~*'()".toList.contains c ||
    (verbatim && (c == ',' || c == '[' || c == ']'))

/-- One byte of an escaped character. -/
def scanByte : Scan Nat := do
  look 3
  ensure ((← peek) == some '%')
  match ((← peekAt 1).bind hexValue?), ((← peekAt 2).bind hexValue?) with
  | some a, some b =>
    skipMany 3
    return a * 16 + b
  | _, _ => refuse

/-- So many bytes of an escaped character behind the first. -/
def scanTail : Nat → Scan (List UInt8)
  | 0 => return []
  | count + 1 => do
    let b ← scanByte
    ensure (0x80 ≤ b && b < 0xC0)
    return UInt8.ofNat b :: (← scanTail count)

/-- How many bytes stand behind the first byte of a character. -/
def tailLength? (b : Nat) : Option Nat :=
  if b < 0x80 then some 0
  else if b < 0xC0 then none
  else if b < 0xE0 then some 1
  else if b < 0xF0 then some 2
  else if b < 0xF8 then some 3
  else none

/-- A character written by its bytes. That there are as many as the first one
tells is all that is asked of them. -/
def scanUriEscape : Scan (List UInt8) := do
  let b ← scanByte
  match tailLength? b with
  | some count => return UInt8.ofNat b :: (← scanTail count)
  | none => refuse

/-- The bytes of a suffix. -/
def scanUri (verbatim : Bool) : Nat → Scan (List UInt8)
  | 0 => refuse
  | fuel + 1 => do
    look 1
    match ← peek with
    | some c =>
      if c == '%' then
        let bytes ← scanUriEscape
        return bytes ++ (← scanUri verbatim fuel)
      else if isUriChar verbatim c then
        skip
        return c.toUInt8 :: (← scanUri verbatim fuel)
      else return []
    | none => return []

/-- A handle: an exclamation mark, a name perhaps, and another mark if a name or
a second mark follows. In a directive only whole handles are allowed. -/
def scanHandle (directive : Bool) : Scan (List Char) := do
  look 1
  ensure ((← peek) == some '!')
  skip
  let name ← takeWhile isNameChar
  if (← peek) == some '!' then
    skip
    return '!' :: name ++ ['!']
  else
    ensure (!directive || name.isEmpty)
    return '!' :: name

/-- A tag: verbatim between angles, a handle with a suffix, or a mark with a
suffix. A mark alone is the suffix of no handle. -/
def scanTag : Scan Token := do
  look 2
  if (← peekAt 1) == some '<' then
    skipMany 2
    let suffix ← scanUri true (← fuel)
    ensure (!suffix.isEmpty)
    ensure ((← peek) == some '>')
    skip
    return .tag "" suffix
  else
    let handle ← scanHandle false
    if 2 ≤ handle.length && handle.getLast? == some '!' then
      let suffix ← scanUri false (← fuel)
      ensure (!suffix.isEmpty)
      return .tag (String.ofList handle) suffix
    else
      let suffix := handle.tail.map Char.toUInt8 ++ (← scanUri false (← fuel))
      if (Tag.part suffix).isEmpty then return .tag "" (Tag.bytesOf "!")
      else return .tag "!" suffix

/-- What must follow a tag: the end of a word, or in a flow collection a
comma. -/
def scanTagEnd (inFlow : Bool) : Scan Unit := do
  look 1
  let c ← peek
  ensure (endsWord c || (inFlow && c == some ','))

/-- A number of a version, nine digits at most. -/
def scanVersionNumber : Scan Nat := do
  let ds ← takeWhile fun c => '0' ≤ c && c ≤ '9'
  ensure (!ds.isEmpty && decide (ds.length ≤ 9))
  return ds.foldl (fun n c => n * 10 + (c.toNat - 48)) 0

/-- A directive, with the rest of its line. -/
def scanDirective : Scan Token := do
  skip
  let name ← takeWhile isNameChar
  ensure (!name.isEmpty && endsWord (← peek))
  let token ←
    match String.ofList name with
    | "YAML" => do
      skipGaps
      let major ← scanVersionNumber
      ensure ((← peek) == some '.')
      skip
      pure (Token.versionDirective major (← scanVersionNumber))
    | "TAG" => do
      skipGaps
      let handle ← scanHandle true
      look 1
      ensure ((← peek).any isGap)
      skipGaps
      let lead ← scanUri true (← fuel)
      ensure (!lead.isEmpty && endsWord (← peek))
      pure (Token.tagDirective (String.ofList handle) lead)
    | _ => refuse
  finishLine
  return token

end Stepwise.Yaml
