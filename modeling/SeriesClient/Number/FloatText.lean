import SeriesClient.Number.Shortest

set_option relaxedAutoImplicit false
set_option autoImplicit false

/-!
# Floating-point text

Three spellings of a floating-point number: the general one, which turns to an exponent
for very small and very large numbers, the positional one, which never does, and the one
with a single digit after the point. The first two print the shortest decimal that reads
back in the number's own width.

## Main definitions

* `SeriesClient.Floating.text` — general spelling: `0.1`, `1e+16`, `-inf`.
* `SeriesClient.Floating.positional` — positional spelling: `10000000000000000.0`.
* `SeriesClient.Floating.tenths` — rounded to one digit after the point.
-/

namespace SeriesClient

/-- The decimal digits of a natural number. -/
def natDigits (n : Nat) : List Char :=
  Nat.toDigits 10 n

/-- The decimal digits of an integer, with a minus sign when it is negative. An integer of any size
has digits: no limit is set to their number, here and where they are read again. -/
def intDigits (n : Int) : List Char :=
  if n < 0 then '-' :: natDigits n.natAbs else natDigits n.natAbs

/-- The decimal digits of `n`, filled up with zeros on the left to `width` places. -/
def paddedDigits (width n : Nat) : List Char :=
  let digits := natDigits n
  List.replicate (width - digits.length) '0' ++ digits

namespace Decimals

/-- Positional spelling, with at least one digit on each side of the point. -/
def positional (d : Decimals) : List Char :=
  let digits := natDigits d.digits
  if 0 ≤ d.place then digits ++ List.replicate d.place.toNat '0' ++ ['.', '0']
  else
    let fraction := (-d.place).toNat
    let filled := List.replicate (fraction + 1 - digits.length) '0' ++ digits
    filled.take (filled.length - fraction) ++ '.' :: filled.drop (filled.length - fraction)

/-- The place of the leading digit. -/
def leadingPlace (d : Decimals) : Int :=
  d.place + (decimalLength d.digits : Int) - 1

/-- Spelling with an exponent of at least two digits; a point is written only before
further digits. -/
def scientific (d : Decimals) : List Char :=
  let digits := natDigits d.digits
  let exponent := d.leadingPlace
  digits.take 1 ++ (if digits.length ≤ 1 then [] else '.' :: digits.drop 1)
    ++ 'e' :: (if exponent < 0 then '-' else '+') :: paddedDigits 2 exponent.natAbs

end Decimals

/-- Where the general spelling is positional: leading places from `lowest` up to, and not
including, `limit`. -/
structure PositionalRange where
  /-- The least leading place that is written out. -/
  lowest : Int
  /-- The first leading place that takes an exponent. -/
  limit : Int

/-- Numbers from `0.0001` up to, and not including, `1e+16` are written out. -/
def PositionalRange.standard : PositionalRange := ⟨-4, 16⟩

namespace Floating

/-- A minus sign for numbers below zero and for the negative zero. -/
def signText (negative : Bool) : List Char :=
  if negative then ['-'] else []

/-- The spelling of a number that is not finite, and a given one for the others. -/
def spell (finiteText : Nat → Int → List Char) : Floating → List Char
  | nan => ['n', 'a', 'n']
  | infinite negative => signText negative ++ ['i', 'n', 'f']
  | finite negative m q => signText negative ++ finiteText m q

/-- The general spelling of a number in the format `f`. -/
def text (f : Format) : Floating → List Char :=
  spell fun m q =>
    let d := f.shortest m q
    let range := PositionalRange.standard
    if m = 0 ∨ (range.lowest ≤ d.leadingPlace ∧ d.leadingPlace < range.limit) then d.positional
    else d.scientific

/-- The positional spelling of a number in the format `f`. -/
def positional (f : Format) : Floating → List Char :=
  spell fun m q => (f.shortest m q).positional

/-- The exact value rounded to one digit after the point, ties to even. -/
def tenths : Floating → List Char :=
  spell fun m q =>
    let n := if 0 ≤ q then m * 2 ^ q.toNat * 10 else divEven (m * 10) (2 ^ (-q).toNat)
    natDigits (n / 10) ++ '.' :: natDigits (n % 10)

end Floating

end SeriesClient
