import Mathlib.Algebra.Order.Group.Unbundled.Int
import Mathlib.Data.Rat.Floor
import SeriesClient.Number.Rounding

set_option relaxedAutoImplicit false
set_option autoImplicit false

/-!
# Division towards zero

What is cut off by a division with a positive divisor, and what is left of it after the quotient is
multiplied by the divisor again. And how far rounding a fraction down is from cutting it off.

## Main definitions

* `SeriesClient.towardZero` — a rational number without its fraction.

## Main results

* `SeriesClient.truncDiv_eq_tdiv` — division with the sign put back is truncated division.
* `SeriesClient.truncDiv_mul_eq` — exactly the remainder is lost.
* `SeriesClient.truncDiv_mul_truncDiv` — dividing first by a divisor of the divisor changes nothing.
* `SeriesClient.truncDiv_eq_towardZero` — the quotient is the exact one without its fraction.
* `SeriesClient.floor_eq_towardZero_iff` — where rounding down cuts the fraction off.

## Design

The remainder has the sign of the number, or is zero. That is why nothing moves away from zero, and
all laws here follow from it.
-/

namespace SeriesClient

/-- Dividing by a positive number and rounding towards zero is truncated division. -/
theorem truncDiv_eq_tdiv (n : Int) {d : Int} (hd : 0 < d) : truncDiv n d = n.tdiv d := by
  have hfdiv : Int.fdiv n.natAbs d = Int.tdiv n.natAbs d :=
    Int.fdiv_eq_tdiv_of_nonneg (by omega) (by omega)
  simp only [truncDiv, hfdiv]
  rcases Int.le_total 0 n with h | h
  · rw [if_pos h, Int.natAbs_of_nonneg h]
  · rw [Int.ofNat_natAbs_of_nonpos h, Int.neg_tdiv, Int.neg_neg]
    split
    · next h' =>
      rw [show n = 0 by omega, Int.zero_tdiv]
      rfl
    · rfl

section Divisor

variable {d : Int} (hd : 0 < d) (n : Int)

include hd

/-- **Exactly the remainder is lost.** -/
theorem truncDiv_mul_eq : truncDiv n d * d = n - n.tmod d := by
  have hsplit := Int.tmod_add_mul_tdiv n d
  rw [truncDiv_eq_tdiv n hd, Int.mul_comm]
  omega

/-- Less than the divisor is lost. -/
lemma abs_sub_truncDiv_mul_lt : |n - truncDiv n d * d| < d := by
  have hupper := Int.tmod_lt_of_pos n hd
  have hlower := Int.lt_tmod_of_pos n hd
  rw [truncDiv_mul_eq hd, abs_lt]
  omega

/-- What is left lies between zero and the number. -/
lemma truncDiv_mul_between :
    0 ≤ truncDiv n d * d ∧ truncDiv n d * d ≤ n ∨ n ≤ truncDiv n d * d ∧ truncDiv n d * d ≤ 0 := by
  rw [truncDiv_eq_tdiv n hd, Int.mul_comm]
  rcases Int.le_total 0 n with hn | hn
  · have hquotient : 0 ≤ n.tdiv d := Int.tdiv_nonneg hn (by omega)
    exact .inl ⟨Int.mul_nonneg (by omega) hquotient, Int.mul_tdiv_self_le hn⟩
  · have hneg : 0 ≤ -n := by omega
    have hquotient : 0 ≤ (-n).tdiv d := Int.tdiv_nonneg hneg (by omega)
    have hpositive := Int.mul_nonneg (Int.le_of_lt hd) hquotient
    have hbelow : d * (-n).tdiv d ≤ -n := Int.mul_tdiv_self_le hneg
    rw [Int.neg_tdiv, Int.mul_neg] at hpositive hbelow
    exact .inr ⟨by omega, by omega⟩

/-- What is left is not farther from zero than the number. -/
lemma abs_truncDiv_mul_le : |truncDiv n d * d| ≤ |n| := by
  rcases truncDiv_mul_between hd n with ⟨hzero, hle⟩ | ⟨hle, hzero⟩
  · rw [abs_of_nonneg hzero, abs_of_nonneg (by omega)]
    exact hle
  · rw [abs_of_nonpos hzero, abs_of_nonpos (by omega)]
    omega

/-- What is left is zero or has the sign of the number. -/
lemma truncDiv_mul_sign : truncDiv n d * d = 0 ∨ (truncDiv n d * d).sign = n.sign := by
  rcases truncDiv_mul_between hd n with ⟨hzero, hle⟩ | ⟨hle, hzero⟩
  · rcases Int.lt_or_eq_of_le hzero with hpos | heq
    · right
      rw [Int.sign_eq_one_of_pos hpos, Int.sign_eq_one_of_pos (by omega)]
    · exact .inl heq.symm
  · rcases Int.lt_or_eq_of_le hzero with hneg | heq
    · right
      rw [Int.sign_eq_neg_one_of_neg hneg, Int.sign_eq_neg_one_of_neg (by omega)]
    · exact .inl heq

/-- Nothing is lost of a multiple of the divisor, and of these only. -/
lemma truncDiv_mul_eq_self_iff : truncDiv n d * d = n ↔ d ∣ n := by
  rw [truncDiv_mul_eq hd, Int.dvd_iff_tmod_eq_zero]
  omega

/-- A multiple of the divisor is divided exactly. -/
lemma truncDiv_mul_self : truncDiv (n * d) d = n := by
  rw [truncDiv_eq_tdiv _ hd, Int.mul_tdiv_cancel n (by omega)]

/-- Division keeps the order. -/
lemma truncDiv_le_truncDiv {m : Int} (h : n ≤ m) : truncDiv n d ≤ truncDiv m d := by
  rw [truncDiv_eq_tdiv n hd, truncDiv_eq_tdiv m hd]
  exact Int.tdiv_le_tdiv hd h

/-- Two divisions one after the other are one by the product. -/
lemma tdiv_tdiv (k : Int) : (n.tdiv d).tdiv k = n.tdiv (d * k) := by
  have hnonneg : ∀ m : Int, 0 ≤ m → (m.tdiv d).tdiv k = m.tdiv (d * k) := by
    intro m hm
    rw [Int.tdiv_eq_ediv_of_nonneg hm, Int.tdiv_eq_ediv_of_nonneg hm,
      Int.tdiv_eq_ediv_of_nonneg (Int.ediv_nonneg hm (by omega)),
      Int.ediv_ediv_of_nonneg (by omega)]
  rcases Int.le_total 0 n with hn | hn
  · exact hnonneg n hn
  · have hneg := hnonneg (-n) (by omega)
    rw [Int.neg_tdiv, Int.neg_tdiv, Int.neg_tdiv] at hneg
    omega

/-- **Dividing first by a divisor of the divisor changes nothing.** -/
theorem truncDiv_mul_truncDiv {e : Int} (he : 0 < e) (h : d ∣ e) :
    truncDiv (truncDiv n d * d) e = truncDiv n e := by
  obtain ⟨k, rfl⟩ := h
  rw [truncDiv_eq_tdiv _ he, truncDiv_eq_tdiv n he, truncDiv_eq_tdiv n hd, Int.mul_comm _ d,
    Int.mul_tdiv_mul_of_pos _ _ hd, tdiv_tdiv hd n k]

end Divisor

/-! ## Rational numbers -/

/-- A rational number without its fraction. -/
def towardZero (q : ℚ) : Int :=
  if 0 ≤ q then ⌊q⌋ else ⌈q⌉

/-- **The quotient is the exact one without its fraction.** -/
theorem truncDiv_eq_towardZero (n : Int) {d : Nat} (hd : 0 < d) :
    truncDiv n d = towardZero ((n : ℚ) / d) := by
  have hd' : (0 : ℚ) < d := Nat.cast_pos.mpr hd
  rw [truncDiv_eq_tdiv n (Int.natCast_pos.mpr hd)]
  unfold towardZero
  rcases Int.le_total 0 n with hn | hn
  · have hq : 0 ≤ (n : ℚ) / d := div_nonneg (Int.cast_nonneg hn) hd'.le
    rw [if_pos hq, Rat.floor_intCast_div_natCast, Int.tdiv_eq_ediv_of_nonneg hn]
  · have hneg : (-n).tdiv d = -n / d := Int.tdiv_eq_ediv_of_nonneg (by omega)
    rw [Int.neg_tdiv] at hneg
    have hceil : ⌈(n : ℚ) / d⌉ = n.tdiv d := by
      rw [Rat.ceil_intCast_div_natCast]
      omega
    split
    · next hq =>
      -- a quotient of a number that is not positive is not positive, so it is zero here
      have hq' : (n : ℚ) / d ≤ 0 := div_nonpos_of_nonpos_of_nonneg (Int.cast_nonpos.mpr hn) hd'.le
      rw [← hceil, le_antisymm hq' hq, Int.floor_zero, Int.ceil_zero]
    · exact hceil.symm

/-- Below zero, a fraction that is rounded down and not cut off makes one more. -/
lemma floor_eq_towardZero_sub_one {q : ℚ} (hneg : q < 0) (hfraction : ∀ whole : Int, whole ≠ q) :
    ⌊q⌋ = towardZero q - 1 := by
  have hceil : ⌈q⌉ = ⌊q⌋ + 1 := by
    rw [Int.ceil_eq_floor_add_one_iff_notMem]
    rintro ⟨whole, hwhole⟩
    exact hfraction whole hwhole
  rw [towardZero, if_neg (not_le.mpr hneg)]
  omega

/-- **Rounding down cuts the fraction off where the number is not negative or has none.** -/
theorem floor_eq_towardZero_iff (q : ℚ) :
    ⌊q⌋ = towardZero q ↔ 0 ≤ q ∨ ∃ whole : Int, (whole : ℚ) = q := by
  constructor
  · intro h
    by_contra hnot
    push Not at hnot
    have hless := floor_eq_towardZero_sub_one hnot.1 hnot.2
    omega
  · rintro (hq | ⟨whole, rfl⟩)
    · rw [towardZero, if_pos hq]
    · rw [towardZero, Int.floor_intCast, Int.ceil_intCast, ite_self]

end SeriesClient
