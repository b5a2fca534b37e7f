/-!
# Binary floating point with sixty-four bits

A finite number of this format is a sign, a whole number below `2^53` and a
power of two. Arithmetic is exact on whole numbers and rounds once at the end,
to the nearest number of the format and on a tie to the even one, so that what
it yields can be computed by hand.
-/

namespace Stepwise.Decimal

/-- The finite number `± mantissa · 2 ^ exponent`. The exponent is as small as
fifty-three bits allow, and never below `-1074`. -/
structure Binary64 where
  negative : Bool
  mantissa : Nat
  exponent : Int
deriving Repr, DecidableEq, Inhabited

/-- The quotient of two whole numbers, rounded to the nearest one; a tie goes to
the even neighbour. -/
def divRound (n d : Nat) : Nat :=
  let q := n / d
  let r := n % d
  if 2 * r < d then q
  else if d < 2 * r then q + 1
  else if q % 2 = 0 then q else q + 1

/-- Two to a power. Powers below zero count as one. -/
def twoTo (e : Int) : Nat := Nat.pow 2 e.toNat

/-- Ten to a power. Powers below zero count as one. -/
def tenTo (e : Int) : Nat := Nat.pow 10 e.toNat

/-- The least mantissa that takes all fifty-three bits. -/
def halfMantissa : Nat := Nat.pow 2 52

namespace Binary64

/-- The least exponent, that of the numbers nearest to zero. -/
def minExponent : Int := -1074

/-- The greatest exponent. -/
def maxExponent : Int := 971

def zero (negative : Bool) : Binary64 := ⟨negative, 0, minExponent⟩

/-- The greatest `e` with `2 ^ e ≤ n / d`, for positive `n` and `d`. -/
def log2Ratio (n d : Nat) : Int :=
  let e : Int := (n.log2 : Int) - (d.log2 : Int)
  let reached :=
    if 0 ≤ e then decide (d * twoTo e ≤ n) else decide (d ≤ n * twoTo (-e))
  if reached then e else e - 1

/-- The number of the format nearest to `± n / d`, or nothing when that is too
great for it. -/
def ofRatio (negative : Bool) (n d : Nat) : Option Binary64 :=
  if n = 0 then some (zero negative)
  else
    let q := max (log2Ratio n d - 52) minExponent
    let m := if 0 ≤ q then divRound n (d * twoTo q) else divRound (n * twoTo (-q)) d
    let (m, q) := if m = 2 * halfMantissa then (halfMantissa, q + 1) else (m, q)
    if q ≤ maxExponent then some ⟨negative, m, q⟩ else none

def ofNat (negative : Bool) (n : Nat) : Option Binary64 := ofRatio negative n 1

/-- The product, rounded. -/
def mul (x y : Binary64) : Option Binary64 :=
  let q := x.exponent + y.exponent
  let m := x.mantissa * y.mantissa
  ofRatio (x.negative != y.negative) (m * twoTo q) (twoTo (-q))

/-- The quotient by a number that is not zero, rounded. -/
def div (x y : Binary64) : Option Binary64 :=
  let q := x.exponent - y.exponent
  ofRatio (x.negative != y.negative) (x.mantissa * twoTo q)
    (y.mantissa * twoTo (-q))

/-- The power of ten, rounded. -/
def tenPow (e : Nat) : Option Binary64 := ofRatio false (Nat.pow 10 e) 1

/-- Numeric equality: the two zeros are the same number. -/
def eqv (x y : Binary64) : Bool :=
  x == y || (x.mantissa == 0 && y.mantissa == 0)

end Binary64

end Stepwise.Decimal
