import Mathlib.Algebra.Order.Field.Power
import Mathlib.Tactic.FieldSimp
import Mathlib.Tactic.Linarith
import Mathlib.Tactic.Positivity
import Mathlib.Tactic.Ring
import SeriesClient.Number.Floating

set_option relaxedAutoImplicit false
set_option autoImplicit false

/-!
# The numbers of a format and what rounds to them

A quotient is rounded to a number of a format if it lies between the halfway points to its two
neighbours. The neighbour below a power of two is only half as far away as the one above it.

## Main definitions

* `SeriesClient.Format.Holds` — the finite numbers of a format.
* `SeriesClient.Format.Nearest` — the rationals that are rounded to a number.

## Main results

* `SeriesClient.Format.quotientLog2_eq` — the binary logarithm of a quotient.
* `SeriesClient.divEven_eq` — the natural number nearest to a quotient.
* `SeriesClient.Format.holds_of_decode` — finite bit patterns are numbers of the format.
* `SeriesClient.Format.roundQuotient_eq` — what is nearest to a number is rounded to it.

## Design

Quotients are compared as rationals, whatever their numerators and denominators.
-/

namespace SeriesClient

/-! ## Quotients -/

/-- The natural number nearest to a quotient; halfway between two of them it is the even one. -/
lemma divEven_eq_of_twice {num den m : Nat} (hden : 0 < den)
    (hlower : 2 * (m * den) ≤ 2 * num + den) (hupper : 2 * num ≤ 2 * (m * den) + den)
    (hodd : m % 2 = 1 → 2 * (m * den) < 2 * num + den ∧ 2 * num < 2 * (m * den) + den) :
    divEven num den = m := by
  have hdiv : num / den * den + num % den = num := Nat.div_add_mod' num den
  have hmod : num % den < den := Nat.mod_lt num hden
  unfold divEven
  generalize num / den = k at hdiv ⊢
  generalize num % den = r at hdiv hmod ⊢
  have hless : ∀ {a b : Nat}, a * den < b * den → a < b := Nat.lt_of_mul_lt_mul_right
  have hnear : m = k ∨ m = k + 1 := by
    have hle : m < k + 2 := hless (by rw [Nat.add_mul]; omega)
    have hge : k < m + 1 := hless (by rw [Nat.add_mul]; omega)
    omega
  rcases hnear with rfl | rfl
  · dsimp only
    split
    · rfl
    · rw [if_neg (by omega)]
      omega
  · rw [Nat.add_mul] at hlower hupper hodd
    dsimp only
    rw [if_neg (by omega)]
    split
    · rfl
    · omega

/-- A quotient that is no farther than half from a natural number is nearest to it, unless the
number is odd and the quotient lies halfway to another one. -/
theorem divEven_eq {num den : Nat} (hden : 0 < den) {m : Nat}
    (hle : |(num : ℚ) / den - m| ≤ 1 / 2) (hlt : m % 2 = 1 → |(num : ℚ) / den - m| < 1 / 2) :
    divEven num den = m := by
  have hden' : (0 : ℚ) < den := Nat.cast_pos.mpr hden
  have htwice : ((num : ℚ) / den - m) * (2 * den) = 2 * num - 2 * (m * den) := by
    field_simp
  obtain ⟨hlower, hupper⟩ := abs_le.mp hle
  refine divEven_eq_of_twice hden ?_ ?_ fun hodd => ?_
  · have h : (2 * (m * den) : ℚ) ≤ 2 * num + den := by nlinarith
    exact_mod_cast h
  · have h : (2 * num : ℚ) ≤ 2 * (m * den) + den := by nlinarith
    exact_mod_cast h
  · obtain ⟨hlower, hupper⟩ := abs_lt.mp (hlt hodd)
    constructor
    · have h : (2 * (m * den) : ℚ) < 2 * num + den := by nlinarith
      exact_mod_cast h
    · have h : (2 * num : ℚ) < 2 * (m * den) + den := by nlinarith
      exact_mod_cast h

/-- The nearest natural number is no farther than half. -/
lemma abs_sub_divEven_le {num den : Nat} (hden : 0 < den) :
    |(divEven num den : ℚ) - num / den| ≤ 1 / 2 := by
  have hden' : (0 : ℚ) < den := Nat.cast_pos.mpr hden
  have hdiv : num / den * den + num % den = num := Nat.div_add_mod' num den
  have hmod : num % den < den := Nat.mod_lt num hden
  have hbounds : 2 * (divEven num den * den) ≤ 2 * num + den ∧
      2 * num ≤ 2 * (divEven num den * den) + den := by
    unfold divEven
    generalize num / den = k at hdiv ⊢
    generalize num % den = r at hdiv hmod ⊢
    dsimp only
    have hsucc : (k + 1) * den = k * den + den := by rw [Nat.add_mul, Nat.one_mul]
    split
    · constructor <;> omega
    · split
      · rw [hsucc]
        constructor <;> omega
      · rcases Nat.mod_two_eq_zero_or_one k with hk | hk
        · rw [hk, Nat.add_zero]
          constructor <;> omega
        · rw [hk, hsucc]
          constructor <;> omega
  have htwice : ((divEven num den : ℚ) - num / den) * (2 * den) =
      2 * (divEven num den * den) - 2 * num := by
    field_simp
  have hlower : (2 * (divEven num den * den) : ℚ) ≤ 2 * num + den := by exact_mod_cast hbounds.1
  have hupper : (2 * num : ℚ) ≤ 2 * (divEven num den * den) + den := by exact_mod_cast hbounds.2
  rw [abs_le]
  constructor <;> nlinarith

namespace Format

/-- What a power of two comes to, as a comparison of natural numbers. -/
lemma two_zpow_le_div_iff {num den : Nat} (hden : 0 < den) (k : Int) :
    (2 : ℚ) ^ k ≤ num / den ↔
      if 0 ≤ k then den * 2 ^ k.toNat ≤ num else den ≤ num * 2 ^ (-k).toNat := by
  have hden' : (0 : ℚ) < den := Nat.cast_pos.mpr hden
  rw [le_div_iff₀ hden']
  split
  · next hk =>
    obtain ⟨n, rfl⟩ := Int.eq_ofNat_of_zero_le hk
    rw [zpow_natCast, Int.toNat_natCast, mul_comm]
    exact_mod_cast Iff.rfl
  · next hk =>
    obtain ⟨n, rfl⟩ : ∃ n : Nat, k = -n := ⟨(-k).toNat, by omega⟩
    rw [zpow_neg, zpow_natCast, neg_neg, Int.toNat_natCast, inv_mul_le_iff₀ (by positivity),
      mul_comm]
    exact_mod_cast Iff.rfl

/-- A quotient lies between two neighbouring powers of two, and the logarithm is the lower one. -/
lemma quotientLog2_spec {num den : Nat} (hnum : 0 < num) (hden : 0 < den) :
    (2 : ℚ) ^ quotientLog2 num den ≤ num / den ∧
      (num : ℚ) / den < 2 ^ (quotientLog2 num den + 1) := by
  have hden' : (0 : ℚ) < den := Nat.cast_pos.mpr hden
  have hnumLow : (2 : ℚ) ^ num.log2 ≤ num := by exact_mod_cast Nat.log2_self_le hnum.ne'
  have hnumHigh : (num : ℚ) < 2 ^ (num.log2 + 1) := by exact_mod_cast Nat.lt_log2_self
  have hdenLow : (2 : ℚ) ^ den.log2 ≤ den := by exact_mod_cast Nat.log2_self_le hden.ne'
  have hdenHigh : (den : ℚ) < 2 ^ (den.log2 + 1) := by exact_mod_cast Nat.lt_log2_self
  -- the difference of the two logarithms is right, or one too many
  have hhigh : (num : ℚ) / den < 2 ^ ((num.log2 : Int) - den.log2 + 1) := by
    rw [div_lt_iff₀ hden']
    calc (num : ℚ) < 2 ^ (num.log2 + 1) := hnumHigh
      _ = 2 ^ ((num.log2 : Int) - den.log2 + 1) * 2 ^ den.log2 := by
        rw [← zpow_natCast, ← zpow_natCast, ← zpow_add₀ two_ne_zero]
        congr 1
        push_cast
        ring
      _ ≤ 2 ^ ((num.log2 : Int) - den.log2 + 1) * den :=
        mul_le_mul_of_nonneg_left hdenLow (by positivity)
  have hlow : (2 : ℚ) ^ ((num.log2 : Int) - den.log2 - 1) ≤ num / den := by
    rw [le_div_iff₀ hden']
    calc (2 : ℚ) ^ ((num.log2 : Int) - den.log2 - 1) * den
        ≤ 2 ^ ((num.log2 : Int) - den.log2 - 1) * 2 ^ (den.log2 + 1) :=
        mul_le_mul_of_nonneg_left hdenHigh.le (by positivity)
      _ = 2 ^ num.log2 := by
        rw [← zpow_natCast, ← zpow_natCast, ← zpow_add₀ two_ne_zero]
        congr 1
        push_cast
        ring
      _ ≤ num := hnumLow
  have hreached : (2 : ℚ) ^ ((num.log2 : Int) - den.log2) ≤ num / den ↔ _ :=
    two_zpow_le_div_iff hden ((num.log2 : Int) - den.log2)
  have hlog : quotientLog2 num den =
      if (2 : ℚ) ^ ((num.log2 : Int) - den.log2) ≤ num / den then (num.log2 : Int) - den.log2
      else (num.log2 : Int) - den.log2 - 1 := by
    unfold quotientLog2
    dsimp only
    simp only [hreached]
    split <;> simp only [decide_eq_true_iff]
  rw [hlog]
  split
  · next h => exact ⟨h, hhigh⟩
  · next h =>
    rw [sub_add_cancel]
    exact ⟨hlow, not_le.mp h⟩

/-- The binary logarithm of a quotient is the exponent of the power of two below it. -/
theorem quotientLog2_eq {num den : Nat} (hnum : 0 < num) (hden : 0 < den) {k : Int}
    (hlow : (2 : ℚ) ^ k ≤ num / den) (hhigh : (num : ℚ) / den < 2 ^ (k + 1)) :
    quotientLog2 num den = k := by
  obtain ⟨hlow', hhigh'⟩ := quotientLog2_spec hnum hden
  have hle : k < quotientLog2 num den + 1 :=
    (zpow_lt_zpow_iff_right₀ one_lt_two).mp (hlow.trans_lt hhigh')
  have hge : quotientLog2 num den < k + 1 :=
    (zpow_lt_zpow_iff_right₀ one_lt_two).mp (hlow'.trans_lt hhigh)
  omega

/-- The finite numbers of a format, other than by their sign: the significand fits, and is not
smaller than it has to be, except at the smallest exponent. -/
structure Holds (f : Format) (m : Nat) (q : Int) : Prop where
  /-- The significand fits. -/
  lt : m < 2 ^ (f.fractionBits + 1)
  /-- The exponent is none below the smallest one. -/
  min_le : f.minExponent ≤ q
  /-- The exponent is none above the largest one. -/
  le_max : q ≤ f.maxExponent
  /-- The significand is not smaller than it has to be. -/
  normal : q = f.minExponent ∨ 2 ^ f.fractionBits ≤ m

/-- **Finite bit patterns are numbers of the format.** -/
theorem holds_of_decode {f : Format} (hexponent : 2 ≤ f.exponentBits) {bits : Nat}
    {negative : Bool} {m : Nat} {q : Int} (h : f.decode bits = .finite negative m q) :
    f.Holds m q := by
  have hfraction : bits % 2 ^ f.fractionBits < 2 ^ f.fractionBits :=
    Nat.mod_lt _ (Nat.two_pow_pos _)
  have hstored : bits / 2 ^ f.fractionBits % 2 ^ f.exponentBits < 2 ^ f.exponentBits :=
    Nat.mod_lt _ (Nat.two_pow_pos _)
  have hdouble : 2 ^ (f.fractionBits + 1) = 2 ^ f.fractionBits + 2 ^ f.fractionBits := by
    rw [Nat.pow_succ, Nat.mul_two]
  have hhalf : 2 ^ f.exponentBits = 2 * 2 ^ (f.exponentBits - 1) := by
    rw [← Nat.pow_succ']
    congr 1
    omega
  have hbias : 2 ≤ 2 ^ (f.exponentBits - 1) := by
    calc 2 = 2 ^ 1 := rfl
      _ ≤ 2 ^ (f.exponentBits - 1) := Nat.pow_le_pow_right (by decide) (by omega)
  have hmin : f.minExponent = 1 - ((2 ^ (f.exponentBits - 1) - 1 : Nat) : Int) - f.fractionBits :=
    rfl
  have hmax : f.maxExponent = ((2 ^ (f.exponentBits - 1) - 1 : Nat) : Int) - f.fractionBits := rfl
  unfold decode at h
  dsimp only at h
  generalize bits % 2 ^ f.fractionBits = fraction at h hfraction
  generalize bits / 2 ^ f.fractionBits % 2 ^ f.exponentBits = stored at h hstored
  split at h
  · split at h <;> nomatch h
  · next hfinite =>
    split at h
    · obtain ⟨-, rfl, rfl⟩ := Floating.finite.inj h
      exact ⟨by omega, le_refl _, by omega, .inl rfl⟩
    · next hzero =>
      obtain ⟨-, rfl, rfl⟩ := Floating.finite.inj h
      exact ⟨by omega, by omega, by omega, .inr (by omega)⟩

/-- How far the halfway point to the number below is, in units of the last place. -/
def gapBelow (f : Format) (m : Nat) (q : Int) : ℚ :=
  if m = 2 ^ f.fractionBits ∧ f.minExponent < q then 1 / 4 else 1 / 2

/-- The rationals that are rounded to a number: those between the halfway points to its neighbours,
and the halfway points themselves if its significand is even. -/
structure Nearest (f : Format) (m : Nat) (q : Int) (v : ℚ) : Prop where
  /-- The rational is not below the halfway point to the number below. -/
  lower : (m - f.gapBelow m q) * 2 ^ q ≤ v
  /-- The rational is not above the halfway point to the number above. -/
  upper : v ≤ (m + 1 / 2) * 2 ^ q
  /-- The halfway points belong to numbers with an even significand. -/
  strict : m % 2 = 1 → (m - f.gapBelow m q) * 2 ^ q < v ∧ v < (m + 1 / 2) * 2 ^ q

/-- No halfway point is farther than half a unit of the last place. -/
lemma gapBelow_le (f : Format) (m : Nat) (q : Int) : f.gapBelow m q ≤ 1 / 2 := by
  unfold gapBelow
  split <;> norm_num

variable {f : Format} {m : Nat} {q : Int}

/-- What is rounded to a number other than zero is positive. -/
lemma Nearest.pos {v : ℚ} (h : f.Nearest m q v) (hm : 0 < m) : 0 < v := by
  have hm' : (1 : ℚ) ≤ m := by exact_mod_cast hm
  have hgap := f.gapBelow_le m q
  have hpower : (0 : ℚ) < 2 ^ q := by positivity
  calc (0 : ℚ) < (m - f.gapBelow m q) * 2 ^ q := mul_pos (by linarith) hpower
    _ ≤ v := h.lower

/-- A quotient in units of a power of two is again a quotient, as it is divided. -/
lemma exists_scaled (num : Nat) {den : Nat} (hden : 0 < den) (k : Int) :
    ∃ num' den' : Nat, 0 < den' ∧ (num' : ℚ) / den' = num / den / 2 ^ k ∧
      (if 0 ≤ k then divEven num (den * 2 ^ k.toNat) else divEven (num * 2 ^ (-k).toNat) den) =
        divEven num' den' := by
  split
  · next hk =>
    obtain ⟨j, rfl⟩ := Int.eq_ofNat_of_zero_le hk
    refine ⟨num, den * 2 ^ j, Nat.mul_pos hden (Nat.two_pow_pos _), ?_, rfl⟩
    rw [zpow_natCast, div_div]
    push_cast
    rfl
  · next hk =>
    obtain ⟨j, rfl⟩ : ∃ j : Nat, k = -j := ⟨(-k).toNat, by omega⟩
    refine ⟨num * 2 ^ j, den, hden, ?_, by rw [neg_neg, Int.toNat_natCast]⟩
    rw [zpow_neg, zpow_natCast, div_inv_eq_mul, div_mul_eq_mul_div]
    push_cast
    rfl

/-- The natural number nearest to a quotient in units of a power of two, as it is computed. -/
lemma divEven_scaled {num den : Nat} (hden : 0 < den) {k : Int} {n : Nat}
    (hle : |(num : ℚ) / den / 2 ^ k - n| ≤ 1 / 2)
    (hlt : n % 2 = 1 → |(num : ℚ) / den / 2 ^ k - n| < 1 / 2) :
    (if 0 ≤ k then divEven num (den * 2 ^ k.toNat) else divEven (num * 2 ^ (-k).toNat) den) =
      n := by
  obtain ⟨num', den', hden', hquotient, hn⟩ := exists_scaled num hden k
  rw [← hquotient] at hle hlt
  rw [hn]
  exact divEven_eq hden' hle hlt

/-- A quotient is rounded in units of the last place, once these are known. -/
lemma roundQuotient_of_exponent {num den : Nat} (hnum : 0 < num) (negative : Bool) {k : Int}
    (hk : max (quotientLog2 num den - f.fractionBits) f.minExponent = k) {n : Nat}
    (hn : (if 0 ≤ k then divEven num (den * 2 ^ k.toNat)
      else divEven (num * 2 ^ (-k).toNat) den) = n) :
    f.roundQuotient negative num den =
      let (m, q) := if n = 2 ^ (f.fractionBits + 1) then (n / 2, k + 1) else (n, k)
      if f.maxExponent < q then .infinite negative
      else if m = 0 then .finite negative 0 f.minExponent
      else .finite negative m q := by
  rw [roundQuotient, if_neg hnum.ne']
  dsimp only
  rw [hk, hn]

/-- What is rounded to a number is below the power of two that its significand stays below. -/
lemma Nearest.lt_two_zpow {v : ℚ} (h : f.Holds m q) (hv : f.Nearest m q v) :
    v < 2 ^ ((f.fractionBits : Int) + q + 1) := by
  have htop : (m : ℚ) + 1 ≤ 2 ^ (f.fractionBits + 1) := by exact_mod_cast h.lt
  have hpower : (0 : ℚ) < 2 ^ q := by positivity
  calc v ≤ (m + 1 / 2) * 2 ^ q := hv.upper
    _ < 2 ^ (f.fractionBits + 1) * 2 ^ q := mul_lt_mul_of_pos_right (by linarith) hpower
    _ = 2 ^ ((f.fractionBits : Int) + q + 1) := by
      rw [← zpow_natCast, ← zpow_add₀ two_ne_zero]
      congr 1
      push_cast
      ring

/-- A quotient that is not below the power of two of a number is rounded in units of the last place
of the number. -/
lemma roundQuotient_of_reached (h : f.Holds m q) (hm : 0 < m) {num den : Nat} (hnum : 0 < num)
    (hden : 0 < den) (hv : f.Nearest m q ((num : ℚ) / den))
    (hreached : q = f.minExponent ∨ (2 : ℚ) ^ ((f.fractionBits : Int) + q) ≤ num / den)
    (negative : Bool) : f.roundQuotient negative num den = .finite negative m q := by
  obtain ⟨hlow, hhigh⟩ := quotientLog2_spec hnum hden
  have hlog : quotientLog2 num den < (f.fractionBits : Int) + q + 1 :=
    (zpow_lt_zpow_iff_right₀ one_lt_two).mp (hlow.trans_lt (hv.lt_two_zpow h))
  have hmin := h.min_le
  have hmax := h.le_max
  have hexponent : max (quotientLog2 num den - f.fractionBits) f.minExponent = q := by
    rcases hreached with hsmallest | hnormal
    · rw [hsmallest] at hlog ⊢
      exact max_eq_right (by omega)
    · have hge : (f.fractionBits : Int) + q < quotientLog2 num den + 1 :=
        (zpow_lt_zpow_iff_right₀ one_lt_two).mp (hnormal.trans_lt hhigh)
      rw [max_eq_left (by omega)]
      omega
  have hn : (if 0 ≤ q then divEven num (den * 2 ^ q.toNat)
      else divEven (num * 2 ^ (-q).toNat) den) = m := by
    have hgap := f.gapBelow_le m q
    have hpower : (0 : ℚ) < 2 ^ q := by positivity
    have hlower := (le_div_iff₀ hpower).mpr hv.lower
    have hupper := (div_le_iff₀ hpower).mpr hv.upper
    refine divEven_scaled hden (abs_le.mpr ⟨by linarith, by linarith⟩) fun hodd => ?_
    have hlower := (lt_div_iff₀ hpower).mpr (hv.strict hodd).1
    have hupper := (div_lt_iff₀ hpower).mpr (hv.strict hodd).2
    exact abs_lt.mpr ⟨by linarith, by linarith⟩
  rw [roundQuotient_of_exponent hnum negative hexponent hn, if_neg h.lt.ne]
  dsimp only
  rw [if_neg (by omega), if_neg hm.ne']

/-- Only a power of two has quotients below it that are rounded to it from the next exponent. -/
lemma Nearest.eq_two_pow {v : ℚ} (h : f.Holds m q) (hv : f.Nearest m q v)
    (hlarger : f.minExponent < q) (hbelow : v < 2 ^ ((f.fractionBits : Int) + q)) :
    m = 2 ^ f.fractionBits := by
  have hle : 2 ^ f.fractionBits ≤ m := h.normal.resolve_left hlarger.ne'
  by_contra hne
  have hnext : 2 ^ f.fractionBits + 1 ≤ m := by omega
  have hnext' : (2 : ℚ) ^ f.fractionBits + 1 ≤ m := by exact_mod_cast hnext
  have hgap := f.gapBelow_le m q
  have hpower : (0 : ℚ) < 2 ^ q := by positivity
  have habove : (2 : ℚ) ^ ((f.fractionBits : Int) + q) < v := by
    calc (2 : ℚ) ^ ((f.fractionBits : Int) + q) = 2 ^ f.fractionBits * 2 ^ q := by
          rw [zpow_add₀ two_ne_zero, zpow_natCast]
      _ < (m - f.gapBelow m q) * 2 ^ q := mul_lt_mul_of_pos_right (by linarith) hpower
      _ ≤ v := hv.lower
  exact lt_asymm habove hbelow

/-- A quotient just below a power of two is rounded in units of half the size, to a significand that
is one bit too long. -/
lemma roundQuotient_of_below (h : f.Holds m q) {num den : Nat} (hnum : 0 < num)
    (hden : 0 < den) (hv : f.Nearest m q ((num : ℚ) / den)) (hlarger : f.minExponent < q)
    (hbelow : (num : ℚ) / den < 2 ^ ((f.fractionBits : Int) + q)) (negative : Bool) :
    f.roundQuotient negative num den = .finite negative m q := by
  obtain rfl := hv.eq_two_pow h hlarger hbelow
  have hpower : (0 : ℚ) < 2 ^ (q - 1) := by positivity
  have hdouble : (2 : ℚ) ^ q = 2 * 2 ^ (q - 1) := by
    rw [← zpow_one_add₀ two_ne_zero, add_sub_cancel]
  have hlower : ((2 : ℚ) ^ (f.fractionBits + 1) - 1 / 2) * 2 ^ (q - 1) ≤ num / den := by
    have hgap : f.gapBelow (2 ^ f.fractionBits) q = 1 / 4 := if_pos ⟨rfl, hlarger⟩
    have hlower := hv.lower
    rw [hgap, hdouble] at hlower
    push_cast at hlower
    calc ((2 : ℚ) ^ (f.fractionBits + 1) - 1 / 2) * 2 ^ (q - 1)
        = (2 ^ f.fractionBits - 1 / 4) * (2 * 2 ^ (q - 1)) := by ring
      _ ≤ num / den := hlower
  have hupper : (num : ℚ) / den < 2 ^ (f.fractionBits + 1) * 2 ^ (q - 1) := by
    calc (num : ℚ) / den < 2 ^ ((f.fractionBits : Int) + q) := hbelow
      _ = 2 ^ (f.fractionBits + 1) * 2 ^ (q - 1) := by
        rw [← zpow_natCast, ← zpow_add₀ two_ne_zero]
        congr 1
        push_cast
        ring
  have hone : (1 : ℚ) ≤ 2 ^ f.fractionBits := one_le_pow₀ one_le_two
  have hlog : quotientLog2 num den = (f.fractionBits : Int) + (q - 1) := by
    refine quotientLog2_eq hnum hden ?_ ?_
    · calc (2 : ℚ) ^ ((f.fractionBits : Int) + (q - 1)) = 2 ^ f.fractionBits * 2 ^ (q - 1) := by
            rw [zpow_add₀ two_ne_zero, zpow_natCast]
        _ ≤ (2 ^ (f.fractionBits + 1) - 1 / 2) * 2 ^ (q - 1) := by
            refine mul_le_mul_of_nonneg_right ?_ hpower.le
            rw [pow_succ]
            linarith
        _ ≤ num / den := hlower
    · rw [add_assoc, sub_add_cancel]
      exact hbelow
  have hexponent : max (quotientLog2 num den - f.fractionBits) f.minExponent = q - 1 := by
    rw [hlog, max_eq_left (by omega)]
    omega
  have hn : (if 0 ≤ q - 1 then divEven num (den * 2 ^ (q - 1).toNat)
      else divEven (num * 2 ^ (-(q - 1)).toNat) den) = 2 ^ (f.fractionBits + 1) := by
    have hlower := (le_div_iff₀ hpower).mpr hlower
    have hupper := (div_lt_iff₀ hpower).mpr hupper
    refine divEven_scaled hden ?_ fun hodd => ?_
    · push_cast
      exact abs_le.mpr ⟨by linarith, by linarith⟩
    · rw [Nat.pow_succ] at hodd
      omega
  have hmax := h.le_max
  rw [roundQuotient_of_exponent hnum negative hexponent hn, if_pos rfl]
  dsimp only
  rw [sub_add_cancel, Nat.pow_succ, Nat.mul_div_cancel _ (by decide), if_neg (by omega),
    if_neg (Nat.two_pow_pos _).ne']

/-- **What is nearest to a number is rounded to it.**

**Proof sketch.** Either the quotient is not below the power of two of the number, and then it is
rounded in units of the last place of the number. Or the number is itself a power of two and the
quotient is just below it; then it is rounded in units of half that size. -/
theorem roundQuotient_eq (h : f.Holds m q) (hm : 0 < m) {num den : Nat} (hden : 0 < den)
    (hv : f.Nearest m q ((num : ℚ) / den)) (negative : Bool) :
    f.roundQuotient negative num den = .finite negative m q := by
  have hnum : 0 < num := by
    have hpos := hv.pos hm
    rw [div_pos_iff_of_pos_right (by exact_mod_cast hden)] at hpos
    exact_mod_cast hpos
  by_cases hreached : q = f.minExponent ∨ (2 : ℚ) ^ ((f.fractionBits : Int) + q) ≤ num / den
  · exact roundQuotient_of_reached h hm hnum hden hv hreached negative
  · obtain ⟨hlarger, hbelow⟩ := not_or.mp hreached
    have hmin := h.min_le
    exact roundQuotient_of_below h hnum hden hv (by omega) (not_le.mp hbelow) negative

end Format

end SeriesClient
