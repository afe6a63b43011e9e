import SeriesClient.Number.Floating

set_option relaxedAutoImplicit false
set_option autoImplicit false

/-!
# Shortest decimals

The decimal with the fewest digits that reads back as a given binary number, and of those
the one nearest to it. The reals that round to `m · 2 ^ q` form an interval around it; the
search walks from the coarsest decimal grid to finer ones and stops at the first grid that
has a point in the interval. Only the two grid points next to the number itself need
looking at: if any point of a grid lies in the interval, one of these two does.

## Main definitions

* `SeriesClient.Decimals` — a natural number times a power of ten.
* `SeriesClient.Interval` — the reals that round to one binary number.
* `SeriesClient.Format.shortest` — the shortest decimal of a binary number.

## Design

All comparisons are between natural numbers: the interval is kept as numerators over one
common denominator. Its ends belong to it exactly when the significand is even, because a
tie rounds to the even significand. Below a power of two the neighbouring number is only
half as far away, except at the smallest exponent.
-/

namespace SeriesClient

/-- The number `digits · 10 ^ place`. -/
structure Decimals where
  /-- The digits, read as one natural number. -/
  digits : Nat
  /-- The power of ten that the last digit stands for. -/
  place : Int
  deriving DecidableEq, Repr

/-- A number with the interval of reals that round to it; all three are numerators over
`den`. -/
structure Interval where
  /-- Lower end. -/
  low : Nat
  /-- The number itself. -/
  value : Nat
  /-- Upper end. -/
  high : Nat
  /-- Common denominator. -/
  den : Nat
  /-- Whether the ends belong to the interval. -/
  closed : Bool

namespace Interval

/-- The interval of `m · 2 ^ q` in the format `f`. -/
def ofBinary (f : Format) (m : Nat) (q : Int) : Interval :=
  let below := if m = 2 ^ f.fractionBits ∧ f.minExponent < q then 1 else 2
  let scale := if 0 ≤ q - 2 then 2 ^ (q - 2).toNat else 1
  let den := if 0 ≤ q - 2 then 1 else 2 ^ (2 - q).toNat
  { low := (4 * m - below) * scale
    value := 4 * m * scale
    high := (4 * m + 2) * scale
    den
    closed := m % 2 = 0 }

/-- The interval in units of the decimal grid `10 ^ place`. -/
def rescale (i : Interval) (place : Int) : Interval :=
  if 0 ≤ place then { i with den := i.den * 10 ^ place.toNat }
  else
    let scale := 10 ^ (-place).toNat
    { i with low := i.low * scale, value := i.value * scale, high := i.high * scale }

/-- Whether the natural number `d` lies in the interval. -/
def holds (i : Interval) (d : Nat) : Bool :=
  if i.closed then decide (i.low ≤ d * i.den) && decide (d * i.den ≤ i.high)
  else decide (i.low < d * i.den) && decide (d * i.den < i.high)

/-- The natural number in the interval that is nearest to its value, ties to even. -/
def nearest? (i : Interval) : Option Nat :=
  let down := i.value / i.den
  match i.holds down, i.holds (down + 1) with
  | true, true => some (divEven i.value i.den)
  | true, false => some down
  | false, true => some (down + 1)
  | false, false => none

/-- The place of the leading digit of the value: the whole part of its decimal logarithm. -/
def leadingPlace (i : Interval) : Int :=
  if i.den ≤ i.value then (decimalLength (i.value / i.den) : Int) - 1
  else -(decimalLength ((i.den + i.value - 1) / i.value - 1) : Int)

/-- The first grid at or below `place`, among the next `count`, with a point in the
interval; the last one is rounded to in any case. -/
def search (i : Interval) : Nat → Int → Decimals
  | 0, place =>
    let scaled := i.rescale place
    ⟨divEven scaled.value scaled.den, place⟩
  | count + 1, place =>
    match (i.rescale place).nearest? with
    | some digits => ⟨digits, place⟩
    | none => i.search count (place - 1)

end Interval

/-- Drops the zeros at the end of the digits. -/
def Decimals.strip (d : Decimals) : Decimals :=
  let kept := (Nat.toDigits 10 d.digits).reverse.dropWhile (· = '0')
  let dropped := (Nat.toDigits 10 d.digits).length - kept.length
  if d.digits = 0 then ⟨0, 0⟩ else ⟨d.digits / 10 ^ dropped, d.place + dropped⟩

/-- The shortest decimal that reads back as `m · 2 ^ q` in the format `f`. Seventeen
digits are enough for every format up to double precision. -/
def Format.shortest (f : Format) (m : Nat) (q : Int) : Decimals :=
  if m = 0 then ⟨0, 0⟩
  else
    let i := Interval.ofBinary f m q
    (i.search 16 i.leadingPlace).strip

end SeriesClient
