set_option relaxedAutoImplicit false
set_option autoImplicit false

/-!
# Rounding a quotient

Whole-number division in the three ways the library needs: to the nearest neighbour with
ties going to the even one, towards zero, and the count of decimal digits of a natural
number, which places a quotient on the decimal grid.

## Main definitions

* `SeriesClient.divEven` — the natural number nearest to a quotient, ties to even.
* `SeriesClient.decimalLength` — how many decimal digits a natural number has.
* `SeriesClient.truncDiv` — division of an integer by the size of a unit, towards zero.

## Main results

* `SeriesClient.truncDiv_neg` — truncation commutes with negation.
-/

namespace SeriesClient

/-- The natural number nearest to `num / den`. A quotient that lies halfway between two
neighbours goes to the even one. -/
def divEven (num den : Nat) : Nat :=
  let q := num / den
  let twice := 2 * (num % den)
  if twice < den then q
  else if den < twice then q + 1
  else q + q % 2

/-- The number of decimal digits of `n`; zero has one digit. -/
def decimalLength (n : Nat) : Nat :=
  (Nat.toDigits 10 n).length

/-- The quotient of `n` by `d`, rounded towards zero when `d` is positive. The magnitude
of `n` is divided and the sign put back, so for a negative `d` the magnitude of the
result is rounded up. -/
def truncDiv (n d : Int) : Int :=
  let q := Int.fdiv n.natAbs d
  if 0 ≤ n then q else -q

/-- Truncation commutes with negation. -/
theorem truncDiv_neg (n d : Int) : truncDiv (-n) d = -truncDiv n d := by
  unfold truncDiv
  rcases Int.lt_trichotomy n 0 with h | h | h
  · simp [show ¬ 0 ≤ n by omega, show n ≤ 0 by omega]
  · subst h; simp
  · simp [show 0 ≤ n by omega, show ¬ n ≤ 0 by omega]

end SeriesClient
