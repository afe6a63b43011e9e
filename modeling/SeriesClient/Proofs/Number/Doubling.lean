import SeriesClient.Proofs.Number.Nearest
import SeriesClient.Value.Convert

set_option relaxedAutoImplicit false
set_option autoImplicit false

/-!
# Doubling a number

A product of a double and a power of two needs no rounding: it has the same digits. It is a double
again unless it is too large, and then it becomes infinite. The power itself is a double only below
a bound, far before which products may be too large already.

## Main definitions

* `SeriesClient.Floating.IsDouble` — a number of double width.
* `SeriesClient.Extended.doubled` — a number times a power of two, as a double.

## Main results

* `SeriesClient.Format.roundQuotient_exact` — what has few enough digits is not rounded.
* `SeriesClient.integerToDouble_two_pow` — which powers of two are doubles.
* `SeriesClient.Format.multiply_two_pow` — a double is multiplied by a power of two exactly.

## Design

Products are compared by their exact values, so that it does not matter how a number is written as a
significand and an exponent.
-/

namespace SeriesClient

/-! ## Exact values -/

/-- Two to an integer power. -/
lemma powerOfTwo_eq (q : Int) : powerOfTwo q = (2 : ℚ) ^ q := by
  unfold powerOfTwo
  split
  · next hq =>
    obtain ⟨n, rfl⟩ := Int.eq_ofNat_of_zero_le hq
    rw [zpow_natCast, Int.toNat_natCast]
    push_cast
    rfl
  · next hq =>
    obtain ⟨n, rfl⟩ : ∃ n : Nat, q = -n := ⟨(-q).toNat, by omega⟩
    rw [neg_neg, Int.toNat_natCast, zpow_neg, zpow_natCast, Rat.mkRat_eq_div]
    push_cast
    rw [one_div]

namespace Format

variable {f : Format} {m : Nat} {q : Int}

/-- A number that is not rounded can be written with a significand that is not smaller than it has
to be. -/
lemma exists_normal (hm : 0 < m) (hlt : m < 2 ^ (f.fractionBits + 1))
    (hmin : f.minExponent ≤ q) :
    ∃ (m' : Nat) (q' : Int), (m' : ℚ) * 2 ^ q' = m * 2 ^ q ∧ 0 < m' ∧
      m' < 2 ^ (f.fractionBits + 1) ∧ f.minExponent ≤ q' ∧
      (q' = f.minExponent ∨ 2 ^ f.fractionBits ≤ m') := by
  obtain ⟨k, rfl⟩ : ∃ k : Nat, q = f.minExponent + k := ⟨(q - f.minExponent).toNat, by omega⟩
  -- one after the other, the exponent goes down and the significand grows
  induction k generalizing m with
  | zero => exact ⟨m, _, rfl, hm, hlt, hmin, .inl (by omega)⟩
  | succ k ih =>
    by_cases hnormal : 2 ^ f.fractionBits ≤ m
    · exact ⟨m, _, rfl, hm, hlt, hmin, .inr hnormal⟩
    · have hdouble : 2 * m < 2 ^ (f.fractionBits + 1) := by
        rw [Nat.pow_succ]
        omega
      obtain ⟨m', q', hvalue, hrest⟩ := ih (m := 2 * m) (by omega) hdouble (by omega)
      refine ⟨m', q', ?_, hrest⟩
      have hsplit : f.minExponent + ((k + 1 : Nat) : Int) = 1 + (f.minExponent + k) := by
        push_cast
        ring
      rw [hvalue, hsplit, zpow_one_add₀ two_ne_zero]
      push_cast
      ring

/-- A number with a significand that fits is not rounded, but it may be too large. -/
lemma roundQuotient_of_normal (hm : 0 < m) (hlt : m < 2 ^ (f.fractionBits + 1))
    (hmin : f.minExponent ≤ q) (hnormal : q = f.minExponent ∨ 2 ^ f.fractionBits ≤ m)
    {num den : Nat} (hden : 0 < den) (hv : (num : ℚ) / den = m * 2 ^ q) (negative : Bool) :
    f.roundQuotient negative num den =
      if f.maxExponent < q then .infinite negative else .finite negative m q := by
  have hpower : (0 : ℚ) < 2 ^ q := by positivity
  have hnum : 0 < num := by
    have hpos : (0 : ℚ) < num / den := by
      rw [hv]
      positivity
    rw [div_pos_iff_of_pos_right (by exact_mod_cast hden)] at hpos
    exact_mod_cast hpos
  have hhigh : (num : ℚ) / den < 2 ^ ((f.fractionBits : Int) + q + 1) := by
    have hlt' : (m : ℚ) < 2 ^ (f.fractionBits + 1) := by exact_mod_cast hlt
    calc (num : ℚ) / den = m * 2 ^ q := hv
      _ < 2 ^ (f.fractionBits + 1) * 2 ^ q := mul_lt_mul_of_pos_right hlt' hpower
      _ = 2 ^ ((f.fractionBits : Int) + q + 1) := by
        rw [← zpow_natCast, ← zpow_add₀ two_ne_zero]
        congr 1
        push_cast
        ring
  have hexponent : max (quotientLog2 num den - f.fractionBits) f.minExponent = q := by
    rcases hnormal with rfl | hnormal
    · have hlog := (quotientLog2_spec hnum hden).1.trans_lt hhigh
      rw [zpow_lt_zpow_iff_right₀ one_lt_two] at hlog
      exact max_eq_right (by omega)
    · have hlow : (2 : ℚ) ^ ((f.fractionBits : Int) + q) ≤ num / den := by
        have hge : (2 : ℚ) ^ f.fractionBits ≤ m := by exact_mod_cast hnormal
        rw [hv, zpow_add₀ two_ne_zero, zpow_natCast]
        exact mul_le_mul_of_nonneg_right hge hpower.le
      rw [quotientLog2_eq hnum hden hlow hhigh, add_sub_cancel_left]
      exact max_eq_left hmin
  have hn : (if 0 ≤ q then divEven num (den * 2 ^ q.toNat)
      else divEven (num * 2 ^ (-q).toNat) den) = m := by
    have hexact : (num : ℚ) / den / 2 ^ q - m = 0 := by
      rw [hv, mul_div_cancel_right₀ _ hpower.ne', sub_self]
    exact divEven_scaled hden (by rw [hexact]; norm_num) fun _ => by rw [hexact]; norm_num
  rw [roundQuotient_of_exponent hnum negative hexponent hn, if_neg hlt.ne]
  dsimp only
  rw [if_neg hm.ne']

/-- **What has few enough digits is not rounded**, but becomes infinite if it is too large. -/
theorem roundQuotient_exact (hf : f.minExponent ≤ f.maxExponent) (hm : 0 < m)
    (hlt : m < 2 ^ (f.fractionBits + 1)) (hmin : f.minExponent ≤ q) {num den : Nat}
    (hden : 0 < den) (hv : (num : ℚ) / den = m * 2 ^ q) (negative : Bool) :
    if (m : ℚ) * 2 ^ q < 2 ^ ((f.fractionBits : Int) + f.maxExponent + 1) then
      ∃ (m' : Nat) (q' : Int), f.roundQuotient negative num den = .finite negative m' q' ∧
        (m' : ℚ) * 2 ^ q' = m * 2 ^ q
    else f.roundQuotient negative num den = .infinite negative := by
  obtain ⟨m', q', hvalue, hm', hlt', hmin', hnormal⟩ := exists_normal hm hlt hmin
  rw [roundQuotient_of_normal hm' hlt' hmin' hnormal hden (hv.trans hvalue.symm), ← hvalue]
  split
  · next hsmall =>
    refine ⟨m', q', if_neg fun hlarge => ?_, rfl⟩
    have hge : (2 : ℚ) ^ f.fractionBits ≤ m' := by
      exact_mod_cast hnormal.resolve_left (by omega)
    refine absurd hsmall (not_lt.mpr ?_)
    calc (2 : ℚ) ^ ((f.fractionBits : Int) + f.maxExponent + 1)
      _ ≤ 2 ^ ((f.fractionBits : Int) + q') := zpow_le_zpow_right₀ one_le_two (by omega)
      _ = 2 ^ f.fractionBits * 2 ^ q' := by rw [zpow_add₀ two_ne_zero, zpow_natCast]
      _ ≤ m' * 2 ^ q' := mul_le_mul_of_nonneg_right hge (by positivity)
  · next hlarge =>
    refine if_pos (not_le.mp fun hle => hlarge ?_)
    have hlt'' : (m' : ℚ) < 2 ^ (f.fractionBits + 1) := by exact_mod_cast hlt'
    calc (m' : ℚ) * 2 ^ q' < 2 ^ (f.fractionBits + 1) * 2 ^ q' :=
        mul_lt_mul_of_pos_right hlt'' (by positivity)
      _ ≤ 2 ^ (f.fractionBits + 1) * 2 ^ f.maxExponent :=
        mul_le_mul_of_nonneg_left (zpow_le_zpow_right₀ one_le_two hle) (by positivity)
      _ = 2 ^ ((f.fractionBits : Int) + f.maxExponent + 1) := by
        rw [← zpow_natCast, ← zpow_add₀ two_ne_zero]
        congr 1
        push_cast
        ring

end Format

/-! ## Doubles -/

/-- A number of double width. -/
def Floating.IsDouble : Floating → Prop
  | .finite _ m q => Format.double.Holds m q
  | _ => True

/-- The exact value of a finite number. -/
lemma Floating.toExtended_finite (negative : Bool) (m : Nat) (q : Int) :
    (finite negative m q).toExtended =
      .rational (if negative then -((m : ℚ) * 2 ^ q) else (m : ℚ) * 2 ^ q) := by
  simp only [toExtended, powerOfTwo_eq, mul_comm]

/-- A number that is not below zero. -/
def Extended.IsNonneg (e : Extended) : Prop := e ≠ .unordered ∧ e.lt (.rational 0) = false

/-- A double that is not below zero is positive, or a zero of either sign. -/
lemma Floating.IsDouble.cases {x : Floating} (h : x.IsDouble) (hx : x.toExtended.IsNonneg) :
    x = .infinite false ∨ (∃ negative q, x = .finite negative 0 q) ∨
      ∃ m q, x = .finite false m q ∧ 0 < m ∧ Format.double.Holds m q := by
  obtain ⟨hordered, hnonneg⟩ := hx
  rcases x with _ | negative | ⟨negative, m, q⟩
  · exact absurd rfl hordered
  · cases negative with
    | false => exact .inl rfl
    | true => nomatch hnonneg
  · right
    rcases Nat.eq_zero_or_pos m with rfl | hm
    · exact .inl ⟨negative, q, rfl⟩
    · cases negative with
      | false => exact .inr ⟨m, q, rfl, hm, h⟩
      | true =>
        have hpos : (0 : ℚ) < m * 2 ^ q := by positivity
        rw [toExtended_finite, Extended.lt, if_pos rfl] at hnonneg
        exact absurd (neg_lt_zero.mpr hpos) (of_decide_eq_false hnonneg)

/-- A number times a power of two, as a double: the product is exact, unless it is too large. -/
def Extended.doubled (times : Nat) : Extended → Extended
  | .rational r => if r * 2 ^ times < 2 ^ 1024 then .rational (r * 2 ^ times) else .infinite false
  | e => e

/-- A number is converted as the quotient that it is. -/
lemma Format.convert_eq (f : Format) (negative : Bool) (m : Nat) (q : Int) :
    ∃ num den : Nat, 0 < den ∧ (num : ℚ) / den = m * 2 ^ q ∧
      f.convert (.finite negative m q) = f.roundQuotient negative num den := by
  simp only [convert]
  split
  · next hq =>
    obtain ⟨k, rfl⟩ := Int.eq_ofNat_of_zero_le hq
    refine ⟨m * 2 ^ k, 1, Nat.one_pos, ?_, rfl⟩
    rw [zpow_natCast, Nat.cast_one, div_one]
    push_cast
    rfl
  · next hq =>
    obtain ⟨k, rfl⟩ : ∃ k : Nat, q = -k := ⟨(-q).toNat, by omega⟩
    refine ⟨m, 2 ^ k, Nat.two_pow_pos _, ?_, ?_⟩
    · rw [zpow_neg, zpow_natCast, div_eq_mul_inv]
      push_cast
      rfl
    · rw [neg_neg, Int.toNat_natCast]

/-- A power of two as a rational. -/
lemma cast_two_pow (n : Nat) : ((2 ^ n : Nat) : ℚ) = 2 ^ (n : Int) := by
  rw [zpow_natCast]
  push_cast
  rfl

/-- The power of two as it is multiplied by. -/
def Floating.twoPow (n : Nat) : Floating := .finite false (2 ^ 52) (n - 52)

/-- **The powers of two below the bound are doubles**; the others are too large. -/
theorem integerToDouble_two_pow (n : Nat) :
    integerToDouble ((2 ^ n : Nat) : Int) =
      if n < 1024 then .ok (Floating.twoPow n) else .error (.range .doubleOfInteger) := by
  have hvalue : (((2 ^ n : Nat) : Int).natAbs : ℚ) / (1 : Nat) =
      (2 ^ 52 : Nat) * 2 ^ ((n : Int) - 52) := by
    rw [Int.natAbs_natCast, Nat.cast_one, div_one, cast_two_pow, cast_two_pow,
      ← zpow_add₀ two_ne_zero]
    congr 1
    push_cast
    ring
  have hround := Format.roundQuotient_of_normal (f := .double) (m := 2 ^ 52) (q := (n : Int) - 52)
    (by decide) (by decide) (by simp only [Format.minExponent, Format.bias, Format.double]; omega)
    (.inr (Nat.le_refl _)) Nat.one_pos hvalue false
  have hsign : decide (((2 ^ n : Nat) : Int) < 0) = false :=
    decide_eq_false (not_lt.mpr (Int.natCast_nonneg _))
  have hmax : Format.double.maxExponent = 971 := rfl
  rw [integerToDouble, Format.ofInt, hsign, hround, hmax]
  by_cases hn : n < 1024
  · rw [if_neg (by omega), if_pos hn]
    rfl
  · rw [if_pos (by omega), if_neg hn]

/-- A zero of either sign is zero. -/
lemma Floating.toExtended_zero (negative : Bool) (q : Int) :
    (finite negative 0 q).toExtended = .rational 0 := by
  rw [toExtended_finite, Nat.cast_zero, zero_mul, neg_zero, ite_self]

namespace Format

/-- A zero stays zero when it is multiplied. -/
lemma multiply_zero_two_pow (negative : Bool) (q : Int) (n : Nat) :
    (double.multiply (.finite negative 0 q) (.twoPow n)).toExtended = .rational 0 := by
  have hproduct : double.multiply (.finite negative 0 q) (.twoPow n) =
      double.convert (.finite (negative != false) (0 * 2 ^ 52) (q + (n - 52))) := rfl
  obtain ⟨num, den, hden, hquotient, hconvert⟩ :=
    double.convert_eq (negative != false) (0 * 2 ^ 52) (q + (n - 52))
  have hnum : num = 0 := by
    rw [Nat.zero_mul, Nat.cast_zero, zero_mul, div_eq_zero_iff] at hquotient
    rcases hquotient with hnum | hzero
    · exact_mod_cast hnum
    · exact absurd hzero (by exact_mod_cast hden.ne')
  rw [hproduct, hconvert, hnum, roundQuotient, if_pos rfl, Floating.toExtended_zero]

/-- A positive double keeps its significand when it is multiplied, or becomes infinite. -/
lemma multiply_pos_two_pow {m : Nat} {q : Int} (hm : 0 < m) (hholds : double.Holds m q)
    (n : Nat) : (double.multiply (.finite false m q) (.twoPow n)).toExtended =
      if (m : ℚ) * 2 ^ q * 2 ^ n < 2 ^ 1024 then .rational (m * 2 ^ q * 2 ^ n)
      else .infinite false := by
  have hproduct : double.multiply (.finite false m q) (.twoPow n) =
      double.convert (.finite false (m * 2 ^ 52) (q + (n - 52))) := rfl
  obtain ⟨num, den, hden, hquotient, hconvert⟩ :=
    double.convert_eq false (m * 2 ^ 52) (q + (n - 52))
  have hvalue : (num : ℚ) / den = m * 2 ^ (q + n) := by
    rw [hquotient, Nat.cast_mul, cast_two_pow, mul_assoc, ← zpow_add₀ two_ne_zero]
    congr 2
    push_cast
    ring
  have hsplit : (m : ℚ) * 2 ^ (q + n) = m * 2 ^ q * 2 ^ n := by
    rw [zpow_add₀ two_ne_zero, zpow_natCast, mul_assoc]
  have hmin := hholds.min_le
  have hexact := roundQuotient_exact (f := double) (q := q + n) (by decide) hm hholds.lt (by omega)
    hden hvalue false
  have hbound : (double.fractionBits : Int) + double.maxExponent + 1 = (1024 : Nat) := rfl
  rw [hbound, zpow_natCast, hsplit] at hexact
  rw [hproduct, hconvert]
  split at hexact
  · next hsmall =>
    obtain ⟨m', q', hround, hsame⟩ := hexact
    rw [hround, Floating.toExtended_finite, if_neg Bool.false_ne_true, if_pos hsmall, hsame]
  · next hlarge =>
    rw [hexact, if_neg hlarge]
    rfl

/-- **A double is multiplied by a power of two exactly**, unless the product is too large. -/
theorem multiply_two_pow {x : Floating} (h : x.IsDouble) (hx : x.toExtended.IsNonneg)
    (n : Nat) :
    (double.multiply x (.twoPow n)).toExtended = x.toExtended.doubled n := by
  rcases h.cases hx with rfl | ⟨negative, q, rfl⟩ | ⟨m, q, rfl, hm, hholds⟩
  · rfl
  · rw [multiply_zero_two_pow, Floating.toExtended_zero, Extended.doubled, zero_mul,
      if_pos (by positivity)]
  · rw [multiply_pos_two_pow hm hholds, Floating.toExtended_finite, if_neg Bool.false_ne_true,
      Extended.doubled]

end Format

end SeriesClient
