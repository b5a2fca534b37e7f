import Stepwise.Decimal.Binary64

/-!
# The shortest decimal that reads back

The real numbers that round to a given number of the binary format form an
interval around it. `shortest` looks for a decimal in that interval on coarser
grids first: one digit, then two, up to seventeen, which always suffice. On each
grid only the two neighbours of the number matter, since a grid point in the
interval implies that one of them lies in it; of two hits the nearer one is
taken, and of two equally near ones the even one.
-/

namespace Stepwise.Decimal

/-- The decimal `digits · 10 ^ exponent`. -/
structure Expansion where
  digits : Nat
  exponent : Int
deriving Repr, DecidableEq

/-- The interval of the reals that round to a number, and the number, as
fractions over one denominator. -/
structure Neighbourhood where
  low : Nat
  value : Nat
  high : Nat
  den : Nat
  /-- Whether the two ends belong to it. -/
  closed : Bool

/-- What rounds to `mantissa · 2 ^ exponent`. Below a power of two the numbers
lie twice as dense, so that end is nearer. -/
def Binary64.neighbourhood (x : Binary64) : Neighbourhood :=
  let scale := twoTo x.exponent
  let below := if x.mantissa = halfMantissa ∧ minExponent < x.exponent then 1 else 2
  { low := (4 * x.mantissa - below) * scale
    value := 4 * x.mantissa * scale
    high := (4 * x.mantissa + 2) * scale
    den := 4 * twoTo (-x.exponent)
    closed := x.mantissa % 2 = 0 }

/-- Whether the decimal `d · 10 ^ p` lies in the interval. -/
def Neighbourhood.holds (n : Neighbourhood) (d : Nat) (p : Int) : Bool :=
  let here := d * tenTo p * n.den
  let low := n.low * tenTo (-p)
  let high := n.high * tenTo (-p)
  if n.closed then decide (low ≤ here ∧ here ≤ high) else decide (low < here ∧ here < high)

/-- The number of decimal digits before the point, counted below zero for the
zeros behind it: the `k` with `10 ^ (k - 1) ≤ value < 10 ^ k`. -/
def Neighbourhood.magnitude (n : Neighbourhood) : Int :=
  if n.den ≤ n.value then ((Nat.toDigits 10 (n.value / n.den)).length : Int)
  else up 400 0 (n.value * 10)
where
  up : Nat → Int → Nat → Int
    | 0, k, _ => k
    | fuel + 1, k, v => if n.den ≤ v then k else up fuel (k - 1) (v * 10)

/-- The better of the two neighbours of the value on the grid of `10 ^ p`, if
one lies in the interval. -/
def Neighbourhood.onGrid (n : Neighbourhood) (p : Int) : Option Nat :=
  let num := n.value * tenTo (-p)
  let den := n.den * tenTo p
  let d := num / den
  let r := num % den
  match n.holds d p, n.holds (d + 1) p with
  | true, true =>
    if 2 * r < den then some d
    else if den < 2 * r then some (d + 1)
    else if d % 2 = 0 then some d else some (d + 1)
  | true, false => some d
  | false, true => some (d + 1)
  | false, false => none

/-- Takes zeros off the end of the digits. -/
def Expansion.trim : Nat → Expansion → Expansion
  | 0, x => x
  | fuel + 1, x =>
    if x.digits ≠ 0 ∧ x.digits % 10 = 0 then trim fuel ⟨x.digits / 10, x.exponent + 1⟩ else x

/-- Tries grids from coarse to fine; the last one always holds the value. -/
def Neighbourhood.search (n : Neighbourhood) (k : Int) : Nat → Nat → Expansion
  | 0, used => ⟨n.value * tenTo ((used : Int) - k) / n.den, k - used⟩
  | fuel + 1, used =>
    match n.onGrid (k - used) with
    | some d => (Expansion.mk d (k - used)).trim 20
    | none => search n k fuel (used + 1)

/-- The decimal with the fewest digits that rounds to the absolute value of a
number other than zero. -/
def Binary64.shortest (x : Binary64) : Expansion :=
  let n := x.neighbourhood
  n.search n.magnitude 17 1

end Stepwise.Decimal
