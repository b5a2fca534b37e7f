import Stepwise.Json.Basic

/-!
# Reading JSON text

A recursive reader over the list of characters. Each function returns what it
read and the rest of the text. The fuel is twice the length of the text: a
bracket costs two steps, all else at most one for a character, so that what is
left is always enough for the strings in the rest.

Whole numbers are exact as long as they fit sixty-four bits, signed or not. All
other numbers become floats in two steps, each rounded: the significant digits
that fit sixty-four bits, and then one product or quotient with a power of ten.
The second step can cost the last bit, so a float read here need not be the
nearest one to the text.
-/

namespace Stepwise.Json

open Decimal (Binary64)

/-- White space between the parts of a document. -/
def isSpace (c : Char) : Bool := c == ' ' || c == '\t' || c == '\n' || c == '\x0d'

def skipSpace (cs : List Char) : List Char := cs.dropWhile isSpace

def digit? (c : Char) : Option Nat :=
  if '0' ≤ c ∧ c ≤ '9' then some (c.toNat - 48) else none

/-! ## Numbers -/

def maxUnsigned : Nat := UInt64.size - 1

/-- `± n · 10 ^ e`: the significant digits rounded to a float, and then
multiplied or divided by a rounded power of ten. Powers beyond the range of the
format are applied in pieces, as long as they shrink the number. -/
def scaled (negative : Bool) (n : Nat) (e : Int) : Option Binary64 := do
  let x ← Binary64.ofNat negative n
  go 4 x e
where
  go : Nat → Binary64 → Int → Option Binary64
    | 0, _, _ => some (Binary64.zero negative)
    | fuel + 1, x, e =>
      if e.natAbs ≤ 308 then
        if 0 ≤ e then do x.mul (← Binary64.tenPow e.toNat)
        else do x.div (← Binary64.tenPow (-e).toNat)
      else if x.mantissa = 0 then some x
      else if 0 ≤ e then none
      else do go fuel (← x.div (← Binary64.tenPow 308)) (e + 308)

/-- The digits of an exponent, as a number. -/
def readExponent (cs : List Char) : Option (Int × List Char) :=
  let (negative, cs) :=
    match cs with
    | '+' :: rest => (false, rest)
    | '-' :: rest => (true, rest)
    | _ => (false, cs)
  let ds := cs.takeWhile fun c => (digit? c).isSome
  if ds.isEmpty then none
  else
    let e := ds.foldl (fun (n : Nat) c => n * 10 + (digit? c).getD 0) 0
    some (if negative then -(e : Int) else e, cs.drop ds.length)

/-- What follows the significant digits of a float: an exponent, perhaps. -/
def finishFloat (negative : Bool) (n : Nat) (e : Int) (cs : List Char) :
    Option (Number × List Char) :=
  match cs with
  | 'e' :: rest | 'E' :: rest => do
    let (f, rest) ← readExponent rest
    return (.float (← scaled negative n (e + f)), rest)
  | _ => do return (.float (← scaled negative n e), cs)

/-- Takes digits behind the point as long as the significant digits fit; the
others are dropped. Returns the digits, how many were taken, and the rest. -/
def readFraction : Nat → Nat → List Char → Nat × Nat × List Char
  | n, taken, [] => (n, taken, [])
  | n, taken, c :: rest =>
    match digit? c with
    | none => (n, taken, c :: rest)
    | some d =>
      if maxUnsigned < n * 10 + d then
        (n, taken, (c :: rest).dropWhile fun c => (digit? c).isSome)
      else readFraction (n * 10 + d) (taken + 1) rest

/-- Takes digits before the point as long as they fit. Returns the digits and
the rest, and whether a digit was left because it did not fit. -/
def readWhole : Nat → List Char → Nat × List Char × Bool
  | n, [] => (n, [], false)
  | n, c :: rest =>
    match digit? c with
    | none => (n, c :: rest, false)
    | some d =>
      if maxUnsigned < n * 10 + d then (n, c :: rest, true)
      else readWhole (n * 10 + d) rest

/-- What follows the digits before the point. `skipped` counts the digits that
did not fit. -/
def finishNumber (negative : Bool) (n : Nat) (skipped : Nat) (cs : List Char) :
    Option (Number × List Char) :=
  match cs with
  | '.' :: rest =>
    match rest with
    | c :: _ =>
      if (digit? c).isNone then none
      else
        let (m, taken, after) := readFraction n 0 rest
        finishFloat negative m ((skipped : Int) - taken) after
    | [] => none
  | 'e' :: _ | 'E' :: _ => finishFloat negative n skipped cs
  | _ =>
    if skipped ≠ 0 then finishFloat negative n skipped cs
    else if !negative then some (.whole n, cs)
    else if n = 0 ∨ Nat.pow 2 63 < n then finishFloat negative n 0 cs
    else some (.whole (-(n : Int)), cs)

def readNumber (cs : List Char) : Option (Number × List Char) :=
  let (negative, cs) :=
    match cs with
    | '-' :: rest => (true, rest)
    | _ => (false, cs)
  match cs with
  | [] => none
  | c :: rest =>
    if c == '0' then
      match rest with
      | d :: _ => if (digit? d).isSome then none else finishNumber negative 0 0 rest
      | [] => finishNumber negative 0 0 rest
    else if (digit? c).isNone then none
    else
      let (n, after, more) := readWhole 0 cs
      if more then
        let extra := after.takeWhile fun c => (digit? c).isSome
        finishNumber negative n extra.length (after.drop extra.length)
      else finishNumber negative n 0 after

/-! ## Strings -/

def hexValue? (c : Char) : Option Nat :=
  if '0' ≤ c ∧ c ≤ '9' then some (c.toNat - 48)
  else if 'a' ≤ c ∧ c ≤ 'f' then some (c.toNat - 87)
  else if 'A' ≤ c ∧ c ≤ 'F' then some (c.toNat - 55)
  else none

def hexFour? : List Char → Option (Nat × List Char)
  | a :: b :: c :: d :: rest => do
    let a ← hexValue? a
    let b ← hexValue? b
    let c ← hexValue? c
    let d ← hexValue? d
    return (((a * 16 + b) * 16 + c) * 16 + d, rest)
  | _ => none

/-- The character of an escape by code; two halves of a pair make one. -/
def readUnicode (cs : List Char) : Option (Char × List Char) := do
  let (n, rest) ← hexFour? cs
  if 0xD800 ≤ n ∧ n < 0xDC00 then
    match rest with
    | '\\' :: 'u' :: rest =>
      let (m, rest) ← hexFour? rest
      if 0xDC00 ≤ m ∧ m < 0xE000 then
        return (Char.ofNat (0x10000 + (n - 0xD800) * 0x400 + (m - 0xDC00)), rest)
      else none
    | _ => none
  else if 0xDC00 ≤ n ∧ n < 0xE000 then none
  else return (Char.ofNat n, rest)

def readEscape : List Char → Option (Char × List Char)
  | 'u' :: rest => readUnicode rest
  | 'b' :: rest => some ('\x08', rest)
  | 'f' :: rest => some ('\x0c', rest)
  | 'n' :: rest => some ('\n', rest)
  | 'r' :: rest => some ('\x0d', rest)
  | 't' :: rest => some ('\t', rest)
  | '/' :: rest => some ('/', rest)
  | '\\' :: rest => some ('\\', rest)
  | '\x22' :: rest => some ('\x22', rest)
  | _ => none

/-- The characters of a string up to its closing quote, in reverse. -/
def readString : Nat → List Char → List Char → Option (String × List Char)
  | 0, _, _ => none
  | _, _, [] => none
  | fuel + 1, acc, c :: rest =>
    if c == '\x22' then some (String.ofList acc.reverse, rest)
    else if c == '\\' then do
      let (d, rest) ← readEscape rest
      readString fuel (d :: acc) rest
    else if c.toNat < 0x20 then none
    else readString fuel (c :: acc) rest

/-! ## Values -/

def word? (w : String) (j : Json) (cs : List Char) : Option (Json × List Char) :=
  let ws := w.toList
  if ws.isPrefixOf cs then some (j, cs.drop ws.length) else none

mutual

/-- A value, after white space. `depth` bounds how deep containers may nest. -/
def readValue : Nat → Nat → List Char → Option (Json × List Char)
  | 0, _, _ => none
  | fuel + 1, depth, cs =>
    match skipSpace cs with
    | [] => none
    | c :: rest =>
      if c == '\x22' then do
        let (s, rest) ← readString fuel [] rest
        return (.string s, rest)
      else if c == '[' then
        match depth with
        | 0 => none
        | depth + 1 =>
          match skipSpace rest with
          | ']' :: rest => some (.array [], rest)
          | rest => do
            let (items, rest) ← readItems fuel depth rest
            return (.array items, rest)
      else if c == '\x7b' then
        match depth with
        | 0 => none
        | depth + 1 =>
          match skipSpace rest with
          | '\x7d' :: rest => some (.object [], rest)
          | rest => do
            let (fields, rest) ← readFields fuel depth rest
            return (ofFields fields, rest)
      else if c == 't' then word? "true" (.bool true) (c :: rest)
      else if c == 'f' then word? "false" (.bool false) (c :: rest)
      else if c == 'n' then word? "null" .null (c :: rest)
      else do
        let (n, rest) ← readNumber (c :: rest)
        return (.number n, rest)

/-- The items of an array, the first of which is still to come. -/
def readItems : Nat → Nat → List Char → Option (List Json × List Char)
  | 0, _, _ => none
  | fuel + 1, depth, cs => do
    let (item, rest) ← readValue fuel depth cs
    match skipSpace rest with
    | ',' :: rest =>
      let (items, rest) ← readItems fuel depth rest
      return (item :: items, rest)
    | ']' :: rest => return ([item], rest)
    | _ => none

/-- The fields of an object, the first of which is still to come. -/
def readFields : Nat → Nat → List Char → Option (List (String × Json) × List Char)
  | 0, _, _ => none
  | fuel + 1, depth, cs =>
    match skipSpace cs with
    | '\x22' :: rest => do
      let (name, rest) ← readString fuel [] rest
      match skipSpace rest with
      | ':' :: rest =>
        let (value, rest) ← readValue fuel depth rest
        match skipSpace rest with
        | ',' :: rest =>
          let (fields, rest) ← readFields fuel depth rest
          return ((name, value) :: fields, rest)
        | '\x7d' :: rest => return ([(name, value)], rest)
        | _ => none
      | _ => none
    | _ => none

end

/-- How deep the containers of a document may nest. -/
def depthLimit : Nat := 127

/-- The value of a document, if containers nest at most `depth` deep. -/
def parseWithin (depth : Nat) (s : String) : Option Json :=
  let cs := s.toList
  match readValue (2 * cs.length + 2) depth cs with
  | some (j, rest) => if (skipSpace rest).isEmpty then some j else none
  | none => none

/-- The value of a document. -/
def parse (s : String) : Option Json := parseWithin depthLimit s

end Stepwise.Json
