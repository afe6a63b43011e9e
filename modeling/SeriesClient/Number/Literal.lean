import SeriesClient.Number.Decimal
import SeriesClient.Text.Digit

set_option relaxedAutoImplicit false
set_option autoImplicit false

/-!
# Number literals

Reading an integer or a floating-point number from text. White space may surround the
number, a sign may lead it, digits may come from any script, and a single underscore may
stand between two digits.

## Main definitions

* `SeriesClient.Literal.int?` — reads an integer.
* `SeriesClient.Literal.floating?` — reads a double; `inf`, `infinity` and `nan` are read
  in any letter case.
-/

namespace SeriesClient.Literal

/-- Digits of other scripts become ASCII digits; other characters stay. -/
def toAsciiDigit (c : Char) : Char :=
  match digitValue? c with
  | some n => Char.ofNat ('0'.toNat + n)
  | none => c

/-- Removes the underscores of a text in which each of them stands between two digits. -/
def joinDigits? : List Char → Option (List Char)
  | [] => some []
  | [c] => if c = '_' then none else some [c]
  | c :: d :: rest =>
    if c = '_' then none
    else if d = '_' then
      match rest with
      | e :: rest' =>
        if c.isDigit && e.isDigit then (joinDigits? (e :: rest')).map (c :: ·) else none
      | [] => none
    else (joinDigits? (d :: rest)).map (c :: ·)

/-- The text of a number without surrounding blanks and without underscores. -/
def normalize? (s : List Char) : Option (List Char) :=
  joinDigits? ((trimBlanks s).map toAsciiDigit)

/-- Reads an integer. -/
def int? (s : List Char) : Option Int :=
  (normalize? s).bind DecimalNumber.signed?

/-- Reads the spelling of a floating-point number without its sign. -/
def magnitude? (negative : Bool) (cs : List Char) : Option Floating :=
  let word := String.ofList (cs.map Char.toLower)
  if word = "inf" ∨ word = "infinity" then some (.infinite negative)
  else if word = "nan" then some .nan
  else (DecimalNumber.magnitude? negative cs).map DecimalNumber.toFloating

/-- Reads a double. -/
def floating? (s : List Char) : Option Floating :=
  match normalize? s with
  | some ('-' :: cs) => magnitude? true cs
  | some ('+' :: cs) => magnitude? false cs
  | some cs => magnitude? false cs
  | none => none

end SeriesClient.Literal
