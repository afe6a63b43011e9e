import SeriesClient.Number.FloatText

set_option relaxedAutoImplicit false
set_option autoImplicit false

/-!
# Decimal numbers

Arbitrary-precision decimal numbers as the library receives and shows them: a coefficient
with an exponent, the two infinities, and quiet or signaling not-a-numbers. Numbers with
the same value and different exponents (`1.5` and `1.50`) are different decimals.

## Main definitions

* `SeriesClient.DecimalNumber` — the type.
* `SeriesClient.DecimalNumber.text` — the spelling, which keeps the exponent.
* `SeriesClient.DecimalNumber.ofText?` — reads that spelling.
* `SeriesClient.DecimalNumber.truncate`, `SeriesClient.DecimalNumber.toFloating` —
  conversions.
-/

namespace SeriesClient

/-- A decimal number: `finite s c e` is `±c · 10 ^ e`. -/
inductive DecimalNumber where
  | finite (negative : Bool) (coefficient : Nat) (exponent : Int)
  | infinite (negative : Bool)
  | nan (negative : Bool) (signaling : Bool) (payload : Option Nat)
  deriving DecidableEq, Repr

namespace DecimalNumber

/-- The exponents up to which a decimal is carried through exact arithmetic; beyond them
a double has long been infinite or zero. -/
def magnitudeLimit : Int := 5000

/-- The exact value of a decimal. -/
def toExtended : DecimalNumber → Extended
  | nan .. => .unordered
  | infinite negative => .infinite negative
  | finite negative c e =>
    let magnitude : Rat := if 0 ≤ e then (c * 10 ^ e.toNat : Nat) else mkRat c (10 ^ (-e).toNat)
    .rational (if negative then -magnitude else magnitude)

/-- The whole part of a finite decimal. -/
def truncate : DecimalNumber → Int
  | finite negative c e =>
    let whole : Nat := if 0 ≤ e then c * 10 ^ e.toNat else c / 10 ^ (-e).toNat
    if negative then -(whole : Int) else whole
  | _ => 0

/-- The double nearest to a decimal; the not-a-numbers lose their kind. -/
def toFloating : DecimalNumber → Floating
  | nan .. => .nan
  | infinite negative => .infinite negative
  | finite negative c e =>
    let top := (decimalLength c : Int) + e
    if c = 0 ∨ top < -magnitudeLimit then Format.double.roundQuotient negative 0 1
    else if magnitudeLimit < top then .infinite negative
    else if 0 ≤ e then Format.double.roundQuotient negative (c * 10 ^ e.toNat) 1
    else Format.double.roundQuotient negative c (10 ^ (-e).toNat)

/-- The spelling of a decimal: positional while the exponent is not positive and at most
five zeros follow the point, and otherwise with an exponent after the first digit. -/
def text : DecimalNumber → List Char
  | infinite negative => Floating.signText negative ++ "Infinity".toList
  | nan negative signaling payload =>
    Floating.signText negative ++ (if signaling then "sNaN".toList else "NaN".toList)
      ++ (payload.map natDigits).getD []
  | finite negative c e =>
    let digits := natDigits c
    let left : Int := e + digits.length
    let point : Int := if e ≤ 0 ∧ -6 < left then left else 1
    let body :=
      if point ≤ 0 then '0' :: '.' :: List.replicate (-point).toNat '0' ++ digits
      else if (digits.length : Int) ≤ point then
        digits ++ List.replicate (point - digits.length).toNat '0'
      else digits.take point.toNat ++ '.' :: digits.drop point.toNat
    let shift := left - point
    let exponent :=
      if shift = 0 then []
      else 'E' :: (if shift < 0 then '-' else '+') :: natDigits shift.natAbs
    Floating.signText negative ++ body ++ exponent

/-- Reads a run of decimal digits; at least one is needed. -/
def digits? (cs : List Char) : Option Nat :=
  if cs.isEmpty || !cs.all Char.isDigit then none
  else some (cs.foldl (fun n c => n * 10 + (c.toNat - '0'.toNat)) 0)

/-- Reads an integer with an optional sign. -/
def signed? : List Char → Option Int
  | '-' :: cs => (digits? cs).map fun n => -(n : Int)
  | '+' :: cs => (digits? cs).map Int.ofNat
  | cs => (digits? cs).map Int.ofNat

/-- Reads the spelling of a number without its sign. -/
def magnitude? (negative : Bool) (cs : List Char) : Option DecimalNumber :=
  let mantissa := cs.takeWhile (fun c => c != 'E' && c != 'e')
  let whole := mantissa.takeWhile (· != '.')
  let fraction := (mantissa.dropWhile (· != '.')).drop 1
  let exponent := match cs.drop mantissa.length with
    | [] => some 0
    | _ :: rest => signed? rest
  match digits? (whole ++ fraction), exponent with
  | some c, some e => some (finite negative c (e - fraction.length))
  | _, _ => none

/-- Reads the spelling of a decimal. -/
def ofText? (cs : List Char) : Option DecimalNumber :=
  let negative := cs.head? = some '-'
  let body := if cs.head? = some '-' ∨ cs.head? = some '+' then cs.drop 1 else cs
  if body = "Infinity".toList then some (infinite negative)
  else if "NaN".toList <+: body then some (nan negative false (digits? (body.drop 3)))
  else if "sNaN".toList <+: body then some (nan negative true (digits? (body.drop 4)))
  else magnitude? negative body

/-- The same value with exactly `places` digits after the point. -/
def rescale (places : Nat) : DecimalNumber → DecimalNumber
  | finite negative c e =>
    let shift := e + places
    if 0 ≤ shift then finite negative (c * 10 ^ shift.toNat) (-places)
    else finite negative (divEven c (10 ^ (-shift).toNat)) (-places)
  | d => d

end DecimalNumber

end SeriesClient
