import SeriesClient.Text.Printable

set_option relaxedAutoImplicit false
set_option autoImplicit false

/-!
# Quoted text

The form in which messages show text and byte strings: between quotes, with escapes for
whatever cannot be shown. Single quotes are used unless the text holds a single quote and
no double quote.

## Main definitions

* `SeriesClient.Quoted.text` — a text between quotes.
* `SeriesClient.Quoted.bytes` — a byte string between quotes, with a `b` in front.
-/

namespace SeriesClient.Quoted

/-- The last `width` hexadecimal digits of a number, in lower case. -/
def hex (width n : Nat) : List Char :=
  let digits := Nat.toDigits 16 n
  List.replicate (width - digits.length) '0' ++ digits

/-- The quote that surrounds a text: the double one only if that saves escapes. -/
def delimiter (cs : List Char) : Char :=
  if '\'' ∈ cs ∧ '"' ∉ cs then '"' else '\''

/-- The escape of the characters that have a letter of their own. -/
def lettered? (quote c : Char) : Option (List Char) :=
  if c = quote ∨ c = '\\' then some ['\\', c]
  else if c = '\n' then some ['\\', 'n']
  else if c = '\r' then some ['\\', 'r']
  else if c = '\t' then some ['\\', 't']
  else none

/-- A code point by number, with as many digits as it needs. -/
def numbered (n : Nat) : List Char :=
  if n < 0x100 then '\\' :: 'x' :: hex 2 n
  else if n < 0x10000 then '\\' :: 'u' :: hex 4 n
  else '\\' :: 'U' :: hex 8 n

/-- One character inside quotes. -/
def escape (quote c : Char) : List Char :=
  (lettered? quote c).getD (if isPrintable c then [c] else numbered c.toNat)

/-- A text between quotes. -/
def text (cs : List Char) : List Char :=
  let quote := delimiter cs
  quote :: cs.flatMap (escape quote) ++ [quote]

/-- One byte inside quotes; only the printable part of ASCII is shown as itself. -/
def escapeByte (quote : Char) (b : UInt8) : List Char :=
  let c := Char.ofNat b.toNat
  (lettered? quote c).getD (if 0x20 ≤ b ∧ b ≤ 0x7e then [c] else numbered b.toNat)

/-- A byte string between quotes. -/
def bytes (bs : List UInt8) : List Char :=
  let quote := delimiter (bs.map fun b => Char.ofNat b.toNat)
  'b' :: quote :: bs.flatMap (escapeByte quote) ++ [quote]

end SeriesClient.Quoted
