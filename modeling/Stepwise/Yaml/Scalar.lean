/-!
# What scalars stand for

A plain scalar without a tag stands for whatever it looks like: nothing, a truth
value, a number, or itself. A number may be written with a sign, and a whole
number also with the marks of the bases sixteen, eight and two. Digits behind a
leading zero are no number, and neither is a number with a point or an exponent
that is too great for a float of sixty-four bits: both stand for themselves.
-/

namespace Stepwise.Yaml

/-- What a scalar may look like. -/
inductive Look where
  | null
  | bool (b : Bool)
  | natural (n : Nat)
  /-- A whole number with a minus sign. -/
  | negative (n : Nat)
  /-- A whole number that sixty-four bits do not hold, but one hundred and
  twenty-eight do. -/
  | wide
  | float
  | text
deriving Repr, DecidableEq

def isNullWord (s : String) : Bool := s == "null" || s == "Null" || s == "NULL" || s == "~"

def boolWord? (s : String) : Option Bool :=
  if s == "true" || s == "True" || s == "TRUE" then some true
  else if s == "false" || s == "False" || s == "FALSE" then some false
  else none

/-! ## Whole numbers -/

def digitOf? (base : Nat) (c : Char) : Option Nat :=
  let value :=
    if '0' ≤ c ∧ c ≤ '9' then some (c.toNat - 48)
    else if 'a' ≤ c ∧ c ≤ 'f' then some (c.toNat - 87)
    else if 'A' ≤ c ∧ c ≤ 'F' then some (c.toNat - 55)
    else none
  value.filter (· < base)

/-- The number that digits stand for; there must be one digit at least. -/
def digitsToNat? (base : Nat) (cs : List Char) : Option Nat :=
  if cs.isEmpty then none
  else cs.foldlM (fun n c => (digitOf? base c).map (n * base + ·)) 0

/-- A sign in front is passed over. -/
def dropSign : List Char → List Char
  | '+' :: rest | '-' :: rest => rest
  | cs => cs

/-- Digits with a zero in front, and a sign perhaps. -/
def isZeroPadded (cs : List Char) : Bool :=
  match dropSign cs with
  | '0' :: rest => !rest.isEmpty && rest.all Char.isDigit
  | _ => false

/-- The magnitude behind the mark of a base, or of a decimal number that is not
padded. -/
def magnitude? (cs : List Char) : Option Nat :=
  match cs with
  | '0' :: 'x' :: rest => digitsToNat? 16 rest
  | '0' :: 'o' :: rest => digitsToNat? 8 rest
  | '0' :: 'b' :: rest => digitsToNat? 2 rest
  | _ => if isZeroPadded cs then none else digitsToNat? 10 cs

/-- A whole number that so many bits hold: with a minus sign half as many numbers
as without. -/
def whole? (bits : Nat) (cs : List Char) : Option Look :=
  match cs with
  | '-' :: rest =>
    ((magnitude? rest).filter (· ≤ Nat.pow 2 (bits - 1))).map .negative
  | '+' :: rest => ((magnitude? rest).filter (· < Nat.pow 2 bits)).map .natural
  | _ => ((magnitude? cs).filter (· < Nat.pow 2 bits)).map .natural

/-- A whole number without a minus sign, up to a limit. -/
def natural? (limit : Nat) (s : String) : Option Nat :=
  let cs :=
    match s.toList with
    | '+' :: rest => rest
    | cs => cs
  (magnitude? cs).filter (· ≤ limit)

/-- A whole number that sixty-four bits hold, or at least one hundred and
twenty-eight. -/
def number? (s : String) : Option Look :=
  (whole? 64 s.toList).or ((whole? 128 s.toList).map fun _ => .wide)

/-! ## Floats -/

/-- The least number that no float of sixty-four bits is near to. -/
def floatLimit : Nat := Nat.pow 2 1024 - Nat.pow 2 970

/-- Whether `n · 10 ^ e` is near to a float. -/
def isNearFloat (n : Nat) (e : Int) : Bool :=
  if n = 0 then true
  else
    let size : Int := (Nat.toDigits 10 n).length + e
    if size < 300 then true
    else if 310 < size then false
    else if 0 ≤ e then decide (n * Nat.pow 10 e.toNat < floatLimit)
    else decide (n < floatLimit * Nat.pow 10 (-e).toNat)

/-- Whether a text is a float: digits with a point among them perhaps, and an
exponent perhaps. -/
def isDecimalFloat (cs : List Char) : Bool :=
  let whole := cs.takeWhile Char.isDigit
  let rest := cs.dropWhile Char.isDigit
  let (fraction, rest) :=
    match rest with
    | '.' :: rest => (rest.takeWhile Char.isDigit, rest.dropWhile Char.isDigit)
    | _ => ([], rest)
  let exponent? : Option Int :=
    match rest with
    | [] => some 0
    | c :: rest =>
      if c == 'e' || c == 'E' then
        let e := digitsToNat? 10 (dropSign rest)
        if rest.head? == some '-' then e.map fun n => -(n : Int) else e.map Int.ofNat
      else none
  match digitsToNat? 10 (whole ++ fraction), exponent? with
  | some n, some e => isNearFloat n (e - fraction.length)
  | _, _ => false

/-- Whether a text is a float, finite or not. -/
def isFloat (s : String) : Bool :=
  s == ".inf" || s == ".Inf" || s == ".INF" ||
    s == "+.inf" || s == "+.Inf" || s == "+.INF" ||
    s == "-.inf" || s == "-.Inf" || s == "-.INF" ||
    s == ".nan" || s == ".NaN" || s == ".NAN" || isDecimalFloat (dropSign s.toList)

/-- What a plain scalar without a tag looks like. -/
def Look.ofText (s : String) : Look :=
  if s.isEmpty || isNullWord s then .null
  else
    match boolWord? s with
    | some b => .bool b
    | none =>
      match number? s with
      | some l => l
      | none => if !isZeroPadded s.toList && isFloat s then .float else .text

end Stepwise.Yaml
