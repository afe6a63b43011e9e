import SeriesClient.Proofs.Number.Doubling
import SeriesClient.Proofs.Number.Truncation

set_option relaxedAutoImplicit false
set_option autoImplicit false

/-!
# Numbers as integers and as doubles

A number becomes an integer without its fraction, whichever way it is written, and becomes a double
by rounding. A finite number has a whole part always, but an integer has a nearest double only below
a bound: halfway between the largest double and the power of two above it.

## Main definitions

* `SeriesClient.Format.overflowBound` — from where on quotients are too large for a format.

## Main results

* `SeriesClient.Floating.toInt_eq_ok_iff`, `SeriesClient.DecimalNumber.toInt_eq_ok_iff` — the whole
  part is the exact number without its fraction.
* `SeriesClient.Format.roundQuotient_eq_infinite_iff` — which quotients become infinite.
* `SeriesClient.integerToDouble_eq_error_iff` — which integers have no nearest double.

## Design

At the largest exponent a quotient just below the power of two may round up to it, and then it has
no exponent left. That is why the bound is not the largest number, but half a unit above it.
-/

namespace SeriesClient

/-! ## Whole parts -/

/-- An integer has no fraction. -/
lemma towardZero_intCast (n : Int) : towardZero (n : ℚ) = n := by
  rw [towardZero, Int.floor_intCast, Int.ceil_intCast, ite_self]

/-- The whole part of a quotient of natural numbers. -/
lemma towardZero_natDiv (num : Nat) {den : Nat} (hden : 0 < den) :
    towardZero ((num : ℚ) / den) = (num / den : Nat) := by
  have hquotient := truncDiv_eq_towardZero num hden
  rw [Int.cast_natCast] at hquotient
  rw [← hquotient, truncDiv_eq_tdiv _ (Int.natCast_pos.mpr hden)]
  rfl

/-- The fraction of the opposite number is cut off in the same way. -/
lemma towardZero_neg (q : ℚ) : towardZero (-q) = -towardZero q := by
  rcases lt_trichotomy q 0 with hq | rfl | hq
  · rw [towardZero, towardZero, if_pos (neg_nonneg.mpr hq.le), if_neg (not_le.mpr hq),
      Int.floor_neg]
  · rfl
  · have hneg : ¬ 0 ≤ -q := by linarith
    rw [towardZero, towardZero, if_neg hneg, if_pos hq.le, Int.ceil_neg]

/-- The whole part of a significand with an exponent, as it is computed. -/
lemma towardZero_scaled {base : Nat} (hbase : 0 < base) (c : Nat) (e : Int) :
    towardZero ((c : ℚ) * base ^ e) =
      (if 0 ≤ e then c * base ^ e.toNat else c / base ^ (-e).toNat : Nat) := by
  split
  · next he =>
    obtain ⟨k, rfl⟩ := Int.eq_ofNat_of_zero_le he
    have hwhole := towardZero_natDiv (c * base ^ k) Nat.one_pos
    rw [Nat.div_one, Nat.cast_one, div_one, Nat.cast_mul, Nat.cast_pow] at hwhole
    rw [zpow_natCast, hwhole, Int.toNat_natCast]
  · next he =>
    obtain ⟨k, rfl⟩ : ∃ k : Nat, e = -k := ⟨(-e).toNat, by omega⟩
    have hwhole := towardZero_natDiv c (Nat.pow_pos (n := k) hbase)
    rw [Nat.cast_pow] at hwhole
    rw [zpow_neg, zpow_natCast, ← div_eq_mul_inv, hwhole, neg_neg, Int.toNat_natCast]

/-- The sign stays when a fraction is cut off. -/
lemma towardZero_signed (negative : Bool) (q : ℚ) :
    towardZero (if negative then -q else q) =
      if negative then -towardZero q else towardZero q := by
  cases negative with
  | false => rfl
  | true => exact towardZero_neg q

/-- The whole part of a floating-point number is the number without its fraction. -/
theorem Floating.toInt_eq_ok_iff {x : Floating} {n : Int} :
    x.toInt = .ok n ↔ ∃ r, x.toExtended = .rational r ∧ towardZero r = n := by
  rcases x with _ | sign | ⟨negative, m, q⟩
  · exact iff_of_false nofun nofun
  · exact iff_of_false nofun nofun
  · have hwhole := towardZero_scaled Nat.two_pos m q
    rw [Nat.cast_ofNat] at hwhole
    simp only [toExtended_finite, Extended.rational.injEq, exists_eq_left', towardZero_signed,
      hwhole, toInt, truncate, Except.ok.injEq]

/-- The exact value of a finite decimal. -/
lemma DecimalNumber.toExtended_finite (negative : Bool) (c : Nat) (e : Int) :
    (finite negative c e).toExtended =
      .rational (if negative then -((c : ℚ) * 10 ^ e) else c * 10 ^ e) := by
  have hmagnitude : (if 0 ≤ e then ((c * 10 ^ e.toNat : Nat) : Rat)
      else mkRat c (10 ^ (-e).toNat)) = (c : ℚ) * 10 ^ e := by
    split
    · next he =>
      obtain ⟨k, rfl⟩ := Int.eq_ofNat_of_zero_le he
      rw [zpow_natCast, Int.toNat_natCast]
      push_cast
      rfl
    · next he =>
      obtain ⟨k, rfl⟩ : ∃ k : Nat, e = -k := ⟨(-e).toNat, by omega⟩
      rw [zpow_neg, zpow_natCast, neg_neg, Int.toNat_natCast, Rat.mkRat_eq_div, div_eq_mul_inv]
      push_cast
      rfl
  simp only [toExtended, hmagnitude]

/-- The whole part of a decimal is the decimal without its fraction. -/
theorem DecimalNumber.toInt_eq_ok_iff {d : DecimalNumber} {n : Int} :
    d.toInt = .ok n ↔ ∃ r, d.toExtended = .rational r ∧ towardZero r = n := by
  rcases d with ⟨negative, c, e⟩ | sign | ⟨negative, signaling, payload⟩
  · have hwhole := towardZero_scaled (show 0 < 10 by decide) c e
    rw [Nat.cast_ofNat] at hwhole
    simp only [toExtended_finite, Extended.rational.injEq, exists_eq_left', towardZero_signed,
      hwhole, toInt, truncate, Except.ok.injEq]
  · exact iff_of_false nofun nofun
  · exact iff_of_false nofun nofun

/-! ## Numbers that are too large -/

namespace Format

variable {f : Format}

/-- From where on quotients are too large for a format: halfway between its largest number and the
power of two above it. -/
def overflowBound (f : Format) : ℚ := (2 ^ (f.fractionBits + 1) - 1 / 2) * 2 ^ f.maxExponent

/-- The power of two above the largest number. -/
lemma two_zpow_above (f : Format) :
    (2 : ℚ) ^ ((f.fractionBits : Int) + f.maxExponent + 1) =
      2 ^ (f.fractionBits + 1) * 2 ^ f.maxExponent := by
  rw [← zpow_natCast, ← zpow_add₀ two_ne_zero]
  congr 1
  push_cast
  ring

/-- The bound lies between two neighbouring powers of two. -/
lemma overflowBound_between (f : Format) :
    (2 : ℚ) ^ ((f.fractionBits : Int) + f.maxExponent) ≤ f.overflowBound ∧
      f.overflowBound < 2 ^ ((f.fractionBits : Int) + f.maxExponent + 1) := by
  have hone : (1 : ℚ) ≤ 2 ^ f.fractionBits := one_le_pow₀ one_le_two
  have hpower : (0 : ℚ) < 2 ^ f.maxExponent := by positivity
  rw [two_zpow_above, zpow_add₀ two_ne_zero, zpow_natCast, overflowBound]
  constructor
  · refine mul_le_mul_of_nonneg_right ?_ hpower.le
    rw [pow_succ]
    linarith
  · exact mul_lt_mul_of_pos_right (by linarith) hpower

/-- A quotient becomes infinite if the exponent of its last place, once it has been rounded, is
above the largest one. -/
lemma eq_infinite_iff_of_exponent {num den : Nat} (hnum : 0 < num) (negative sign : Bool)
    {k : Int} (hk : max (quotientLog2 num den - f.fractionBits) f.minExponent = k) {n : Nat}
    (hn : (if 0 ≤ k then divEven num (den * 2 ^ k.toNat)
      else divEven (num * 2 ^ (-k).toNat) den) = n) :
    f.roundQuotient negative num den = .infinite sign ↔
      negative = sign ∧ f.maxExponent < if n = 2 ^ (f.fractionBits + 1) then k + 1 else k := by
  have hinfinite : ∀ (m : Nat) (q : Int),
      (if f.maxExponent < q then Floating.infinite negative
        else if m = 0 then .finite negative 0 f.minExponent
        else .finite negative m q) = .infinite sign ↔ negative = sign ∧ f.maxExponent < q := by
    intro m q
    split
    · next hlarge => simp [hlarge]
    · next hfits => split <;> simp [hfits]
  rw [roundQuotient_of_exponent hnum negative hk hn]
  by_cases hcarry : n = 2 ^ (f.fractionBits + 1)
  · rw [if_pos hcarry, if_pos hcarry]
    exact hinfinite _ _
  · rw [if_neg hcarry, if_neg hcarry]
    exact hinfinite _ _

/-- A quotient below an even number is rounded to it from half a unit below it on. -/
lemma divEven_eq_two_pow_iff {num den : Nat} (hden : 0 < den) {bits : Nat}
    (hless : (num : ℚ) / den < 2 ^ (bits + 1)) :
    divEven num den = 2 ^ (bits + 1) ↔ (2 : ℚ) ^ (bits + 1) - 1 / 2 ≤ num / den := by
  constructor
  · intro hup
    have herror : |(divEven num den : ℚ) - num / den| ≤ 1 / 2 := abs_sub_divEven_le hden
    rw [hup] at herror
    push_cast at herror
    linarith [(abs_le.mp herror).2]
  · intro hnear
    refine divEven_eq hden ?_ fun hodd => ?_
    · push_cast
      exact abs_le.mpr ⟨by linarith, by linarith⟩
    · rw [Nat.pow_succ] at hodd
      omega

/-- **The quotients that become infinite** are those from the bound on.

**Proof sketch.** The binary logarithm of the quotient is below that of the largest number, or the
same, or above it. Only if it is the same, rounding decides: a significand that rounds up to a power
of two raises the exponent beyond the largest one. -/
theorem roundQuotient_eq_infinite_iff (hf : f.minExponent < f.maxExponent) {num den : Nat}
    (hden : 0 < den) (negative sign : Bool) :
    f.roundQuotient negative num den = .infinite sign ↔
      negative = sign ∧ f.overflowBound ≤ (num : ℚ) / den := by
  obtain ⟨hbelow, habove⟩ := f.overflowBound_between
  rcases Nat.eq_zero_or_pos num with rfl | hnum
  · have hpos : (0 : ℚ) < f.overflowBound := lt_of_lt_of_le (by positivity) hbelow
    simpa [roundQuotient] using fun _ => hpos
  obtain ⟨hlow, hhigh⟩ := quotientLog2_spec hnum hden
  obtain ⟨k, hk⟩ : ∃ k, max (quotientLog2 num den - f.fractionBits) f.minExponent = k := ⟨_, rfl⟩
  obtain ⟨num', den', hden', hquotient, hn⟩ := exists_scaled num hden k
  rw [eq_infinite_iff_of_exponent hnum negative sign hk hn]
  refine and_congr_right fun _ => ?_
  rcases lt_trichotomy (quotientLog2 num den) (f.fractionBits + f.maxExponent) with
    hless | hsame | hmore
  · have hsmall : (num : ℚ) / den < f.overflowBound := by
      calc (num : ℚ) / den < 2 ^ (quotientLog2 num den + 1) := hhigh
        _ ≤ 2 ^ ((f.fractionBits : Int) + f.maxExponent) :=
          zpow_le_zpow_right₀ one_le_two (by omega)
        _ ≤ f.overflowBound := hbelow
    refine iff_of_false ?_ (not_le.mpr hsmall)
    split <;> omega
  · obtain rfl : f.maxExponent = k := by omega
    have hpower : (0 : ℚ) < 2 ^ f.maxExponent := by positivity
    have hunits : (num' : ℚ) / den' < 2 ^ (f.fractionBits + 1) := by
      rw [hquotient, div_lt_iff₀ hpower, ← two_zpow_above, ← hsame]
      exact hhigh
    have hbound : f.overflowBound ≤ (num : ℚ) / den ↔
        (2 : ℚ) ^ (f.fractionBits + 1) - 1 / 2 ≤ num' / den' := by
      rw [hquotient, le_div_iff₀ hpower, overflowBound]
    rw [hbound, ← divEven_eq_two_pow_iff hden' hunits]
    split
    · next hcarry => exact iff_of_true (by omega) hcarry
    · next hfits => exact iff_of_false (lt_irrefl _) hfits
  · have hlarge : f.overflowBound ≤ (num : ℚ) / den := by
      calc f.overflowBound ≤ 2 ^ ((f.fractionBits : Int) + f.maxExponent + 1) := habove.le
        _ ≤ 2 ^ quotientLog2 num den := zpow_le_zpow_right₀ one_le_two (by omega)
        _ ≤ num / den := hlow
    refine iff_of_true ?_ hlarge
    split <;> omega

/-- The bound of the doubles. -/
lemma overflowBound_double : double.overflowBound = 2 ^ 1024 - 2 ^ 970 := by
  have hmax : double.maxExponent = (971 : Nat) := rfl
  have hbits : double.fractionBits = 52 := rfl
  have htop : (2 : ℚ) ^ 1024 = 2 ^ (52 + 1) * 2 ^ 971 := by rw [← pow_add]
  have hhalf : (2 : ℚ) ^ 971 = 2 * 2 ^ 970 := by rw [← pow_succ']
  rw [overflowBound, hmax, hbits, zpow_natCast, htop, hhalf]
  -- the powers are too large to be computed with
  generalize (2 : ℚ) ^ 970 = half
  ring

end Format

/-- **The integers that have no nearest double** are those from the bound on. -/
theorem integerToDouble_eq_error_iff {n : Int} {fault : Fault} :
    integerToDouble n = .error fault ↔
      2 ^ 1024 - 2 ^ 970 ≤ n.natAbs ∧ fault = .range .doubleOfInteger := by
  have hcast : ∀ a b : Nat, b ≤ a → ((2 ^ a - 2 ^ b : Nat) : ℚ) = 2 ^ a - 2 ^ b := by
    intro a b h
    rw [Nat.cast_sub (Nat.pow_le_pow_right Nat.two_pos h)]
    push_cast
    rfl
  have hinfinite : ∀ sign, Format.double.ofInt n = .infinite sign ↔
      decide (n < 0) = sign ∧ 2 ^ 1024 - 2 ^ 970 ≤ n.natAbs := by
    intro sign
    rw [Format.ofInt, Format.roundQuotient_eq_infinite_iff (by decide) Nat.one_pos,
      Format.overflowBound_double, ← hcast 1024 970 (by decide), Nat.cast_one, div_one,
      Nat.cast_le]
  unfold integerToDouble
  split
  · next sign hround =>
    rw [and_iff_right ((hinfinite sign).mp hround).2]
    exact ⟨fun h => (Except.error.inj h).symm, fun h => congrArg _ h.symm⟩
  · next hround =>
    refine iff_of_false (fun h => ?_) fun h => ?_
    · cases h
    · exact hround _ ((hinfinite _).mpr ⟨rfl, h.1⟩)

end SeriesClient
