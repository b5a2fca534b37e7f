import Stepwise.Decimal.Shortest
import Stepwise.Json.Basic

/-!
# Compact JSON text

No blanks, fields in the order of their names, and the escapes that the format
demands and no others. Numbers that are not whole are written with the fewest
digits that read back: with a point from `0.00001` up to sixteen digits before
it, and with a power of ten outside that.
-/

namespace Stepwise.Json

open Decimal (Binary64)

/-- The decimal digits of a number. -/
def digits (n : Nat) : String := String.ofList (Nat.toDigits 10 n)

def hexDigits : List Char := "0123456789abcdef".toList

/-- A control character, by its code in four hexadecimal digits. -/
def unicodeEscape (n : Nat) : List Char :=
  ['\\', 'u', '0', '0', hexDigits.getD (n / 16) '0', hexDigits.getD (n % 16) '0']

/-- How a character is written inside a string. -/
def escapeChar (c : Char) : List Char :=
  if c == '\x22' then ['\\', '\x22']
  else if c == '\\' then ['\\', '\\']
  else if c == '\x08' then ['\\', 'b']
  else if c == '\x0c' then ['\\', 'f']
  else if c == '\n' then ['\\', 'n']
  else if c == '\x0d' then ['\\', 'r']
  else if c == '\t' then ['\\', 't']
  else if c.toNat < 0x20 then unicodeEscape c.toNat
  else [c]

def quote (s : String) : String :=
  String.ofList ('\x22' :: s.toList.flatMap escapeChar ++ ['\x22'])

def zeros (n : Nat) : String := String.ofList (List.replicate n '0')

/-- The last exponent of ten for which all digits are written out, and the first
one below zero for which they no longer are. -/
def positionalLimit : Int := 16

def fractionLimit : Int := -5

/-- A positive decimal: `point` says how many digits stand before the point. -/
def decimalText (x : Decimal.Expansion) : String :=
  let ds := digits x.digits
  let point : Int := ds.length + x.exponent
  if 0 ≤ x.exponent ∧ point ≤ positionalLimit then
    ds ++ zeros x.exponent.toNat ++ ".0"
  else if 0 < point ∧ point ≤ positionalLimit then
    (ds.take point.toNat).toString ++ "." ++ (ds.drop point.toNat).toString
  else if fractionLimit < point ∧ point ≤ 0 then
    "0." ++ zeros (-point).toNat ++ ds
  else
    let lead := (ds.take 1).toString
    let rest := (ds.drop 1).toString
    let power := point - 1
    lead ++ (if rest.isEmpty then "" else "." ++ rest) ++ "e" ++
      (if power < 0 then "-" else "+") ++ digits power.natAbs

def floatText (x : Binary64) : String :=
  (if x.negative then "-" else "") ++
    if x.mantissa = 0 then "0.0" else decimalText x.shortest

def Number.text : Number → String
  | .whole n => (if n < 0 then "-" else "") ++ digits n.natAbs
  | .float x => floatText x

mutual

/-- The compact text of a value. -/
def text : Json → String
  | .null => "null"
  | .bool true => "true"
  | .bool false => "false"
  | .number n => n.text
  | .string s => quote s
  | .array items => "[" ++ ",".intercalate (itemTexts items) ++ "]"
  | .object fields => "\x7b" ++ ",".intercalate (fieldTexts fields) ++ "\x7d"

def itemTexts : List Json → List String
  | [] => []
  | x :: rest => text x :: itemTexts rest

def fieldTexts : List (String × Json) → List String
  | [] => []
  | (name, x) :: rest => (quote name ++ ":" ++ text x) :: fieldTexts rest

end

end Stepwise.Json
