import SeriesClient.Number.Rounding

set_option relaxedAutoImplicit false
set_option autoImplicit false

/-!
# Floating-point numbers

A floating-point number is a sign, a significand and a power of two, an infinity, or the
one not-a-number. The widths in use (half, single, double) are values of `Format`; every
conversion rounds an exact rational number once, to the nearest representable neighbour.

## Main definitions

* `SeriesClient.Format` — the widths of the fraction and exponent fields.
* `SeriesClient.Floating` — a floating-point datum, independent of its width.
* `SeriesClient.Format.round` — the nearest number of a format to a rational.
* `SeriesClient.Format.decode`, `SeriesClient.Format.encode` — bit patterns.
* `SeriesClient.Extended` — rationals with infinities and an unordered element, the values
  that numbers of all kinds are compared through.

## Design

The payload of a not-a-number is not kept: no operation of the library can tell two of
them apart. Zero keeps its sign.
-/

namespace SeriesClient

-- A power of a natural number or of an integer means the core operation everywhere, also
-- where the powers of a monoid are in scope.
attribute [instance (2000), default_instance 20000] instPowNat

/-- The widths of the two fields of a binary interchange format. -/
structure Format where
  /-- Number of stored fraction bits. -/
  fractionBits : Nat
  /-- Number of exponent bits. -/
  exponentBits : Nat
  deriving DecidableEq, Repr

/-- A floating-point datum: `finite s m q` is `±m · 2 ^ q`. -/
inductive Floating where
  | nan
  | infinite (negative : Bool)
  | finite (negative : Bool) (significand : Nat) (exponent : Int)
  deriving DecidableEq, Repr

/-- A rational number, one of the two infinities, or an element that is not ordered. -/
inductive Extended where
  | unordered
  | infinite (negative : Bool)
  | rational (value : Rat)
  deriving DecidableEq, Repr

namespace Extended

/-- The order of the extended rationals; the unordered element is below nothing. -/
def lt : Extended → Extended → Bool
  | rational a, rational b => decide (a < b)
  | rational _, infinite negative => !negative
  | infinite negative, rational _ => negative
  | infinite a, infinite b => a && !b
  | unordered, _ => false
  | _, unordered => false

/-- Equality of extended rationals; the unordered element differs from itself. -/
def equal : Extended → Extended → Bool
  | rational a, rational b => decide (a = b)
  | infinite a, infinite b => a == b
  | _, _ => false

end Extended

/-- Two to an integer power, as a rational. -/
def powerOfTwo (q : Int) : Rat :=
  if 0 ≤ q then (2 ^ q.toNat : Nat) else mkRat 1 (2 ^ (-q).toNat)

namespace Floating

/-- The exact value of a datum. -/
def toExtended : Floating → Extended
  | nan => .unordered
  | infinite negative => .infinite negative
  | finite negative m q =>
    let magnitude := powerOfTwo q * (m : Rat)
    .rational (if negative then -magnitude else magnitude)

/-- Whether a datum is neither infinite nor the not-a-number. -/
def isFinite : Floating → Bool
  | finite .. => true
  | _ => false

/-- Whether a datum is a zero of either sign. -/
def isZero : Floating → Bool
  | finite _ 0 _ => true
  | _ => false

/-- The datum with the other sign. -/
def neg : Floating → Floating
  | nan => nan
  | infinite negative => infinite !negative
  | finite negative m q => finite (!negative) m q

/-- The sign bit. -/
def isNegative : Floating → Bool
  | nan => false
  | infinite negative => negative
  | finite negative _ _ => negative

/-- The whole part of a finite datum. -/
def truncate : Floating → Int
  | finite negative m q =>
    let whole : Nat := if 0 ≤ q then m * 2 ^ q.toNat else m / 2 ^ (-q).toNat
    if negative then -(whole : Int) else whole
  | _ => 0

end Floating

namespace Format

/-- Half precision: 10 fraction bits and 5 exponent bits. -/
def half : Format := ⟨10, 5⟩

/-- Single precision: 23 fraction bits and 8 exponent bits. -/
def single : Format := ⟨23, 8⟩

/-- Double precision: 52 fraction bits and 11 exponent bits. -/
def double : Format := ⟨52, 11⟩

/-- The offset of the stored exponent. -/
def bias (f : Format) : Nat := 2 ^ (f.exponentBits - 1) - 1

/-- The power of two that the last significand bit of the smallest numbers stands for. -/
def minExponent (f : Format) : Int := 1 - f.bias - f.fractionBits

/-- The power of two that the last significand bit of the largest numbers stands for. -/
def maxExponent (f : Format) : Int := (f.bias : Int) - f.fractionBits

/-- The whole part of the binary logarithm of a positive quotient. -/
def quotientLog2 (num den : Nat) : Int :=
  let guess : Int := (Nat.log2 num : Int) - Nat.log2 den
  let reached :=
    if 0 ≤ guess then decide (den * 2 ^ guess.toNat ≤ num)
    else decide (den ≤ num * 2 ^ (-guess).toNat)
  if reached then guess else guess - 1

/-- The number of the format nearest to `±num / den`, ties going to the even significand;
a magnitude that rounds beyond the largest number becomes an infinity. -/
def roundQuotient (f : Format) (negative : Bool) (num den : Nat) : Floating :=
  if num = 0 then .finite negative 0 f.minExponent
  else
    let q := max (quotientLog2 num den - f.fractionBits) f.minExponent
    let m := if 0 ≤ q then divEven num (den * 2 ^ q.toNat) else divEven (num * 2 ^ (-q).toNat) den
    let (m, q) := if m = 2 ^ (f.fractionBits + 1) then (m / 2, q + 1) else (m, q)
    if f.maxExponent < q then .infinite negative
    else if m = 0 then .finite negative 0 f.minExponent
    else .finite negative m q

/-- The number of the format nearest to a rational; zero is positive. -/
def round (f : Format) (r : Rat) : Floating :=
  f.roundQuotient (decide (r < 0)) r.num.natAbs r.den

/-- The number of the format nearest to a datum of any width. -/
def convert (f : Format) : Floating → Floating
  | .nan => .nan
  | .infinite negative => .infinite negative
  | .finite negative m q =>
    if 0 ≤ q then f.roundQuotient negative (m * 2 ^ q.toNat) 1
    else f.roundQuotient negative m (2 ^ (-q).toNat)

/-- The number of the format nearest to an integer. -/
def ofInt (f : Format) (n : Int) : Floating :=
  f.roundQuotient (decide (n < 0)) n.natAbs 1

/-- The datum with the given bit pattern. -/
def decode (f : Format) (bits : Nat) : Floating :=
  let fraction := bits % 2 ^ f.fractionBits
  let stored := bits / 2 ^ f.fractionBits % 2 ^ f.exponentBits
  let negative := bits / 2 ^ (f.fractionBits + f.exponentBits) % 2 = 1
  if stored = 2 ^ f.exponentBits - 1 then
    if fraction = 0 then .infinite negative else .nan
  else if stored = 0 then .finite negative fraction f.minExponent
  else .finite negative (fraction + 2 ^ f.fractionBits) (f.minExponent + stored - 1)

/-- The bit pattern of a datum of this format. -/
def encode (f : Format) (x : Floating) : Nat :=
  let sign (negative : Bool) := if negative then 2 ^ (f.fractionBits + f.exponentBits) else 0
  let top := (2 ^ f.exponentBits - 1) * 2 ^ f.fractionBits
  match x with
  | .nan => top + 2 ^ (f.fractionBits - 1)
  | .infinite negative => sign negative + top
  | .finite negative m q =>
    if m < 2 ^ f.fractionBits then sign negative + m
    else sign negative + (q - f.minExponent).toNat * 2 ^ f.fractionBits + m

/-- The double-precision difference of two data. -/
def subtract (f : Format) (x y : Floating) : Floating :=
  match x, y with
  | .nan, _ | _, .nan => .nan
  | .infinite a, .infinite b => if a = b then .nan else .infinite a
  | .infinite a, .finite .. => .infinite a
  | .finite .., .infinite b => .infinite !b
  | .finite a .., .finite b .. =>
    match x.toExtended, y.toExtended with
    | .rational u, .rational v =>
      if u = v then .finite (u = 0 && a && !b) 0 f.minExponent else f.round (u - v)
    | _, _ => .nan

/-- The double-precision product of two data. -/
def multiply (f : Format) (x y : Floating) : Floating :=
  let negative := x.isNegative != y.isNegative
  match x, y with
  | .nan, _ | _, .nan => .nan
  | .infinite _, y => if y.isZero then .nan else .infinite negative
  | x, .infinite _ => if x.isZero then .nan else .infinite negative
  | .finite _ m q, .finite _ n r => f.convert (.finite negative (m * n) (q + r))

/-- The floor of a quotient, as a number of the format; `none` for a zero divisor. -/
def floorQuotient (f : Format) (x y : Floating) : Option Floating :=
  if y.isZero then none
  else
    let negative := x.isNegative != y.isNegative
    match x, y with
    | .nan, _ | _, .nan | .infinite _, _ => some .nan
    | .finite .., .infinite _ =>
      some (if negative && !x.isZero then f.ofInt (-1) else .finite negative 0 f.minExponent)
    | .finite .., .finite .. =>
      match x.toExtended, y.toExtended with
      | .rational u, .rational v =>
        let whole := (u / v).floor
        some (if whole = 0 then .finite negative 0 f.minExponent else f.ofInt whole)
      | _, _ => some .nan

end Format

end SeriesClient
