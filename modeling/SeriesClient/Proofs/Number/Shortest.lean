import SeriesClient.Number.FloatText
import SeriesClient.Proofs.Number.Nearest

set_option relaxedAutoImplicit false
set_option autoImplicit false

/-!
# The shortest decimal is nearest to its number

The decimal that is printed for a number is one of those that are rounded to the number. Either the
search has found a point of a decimal grid in the interval of the number, or it has come to a grid
of seventeen digits, which is so fine that the point next to the number is in its interval anyway.

## Main definitions

* `SeriesClient.Decimals.toRat` — the value of a decimal.
* `SeriesClient.Interval.Contains` — a rational lies in an interval.

## Main results

* `SeriesClient.Interval.search_outcome` — what the search finds.
* `SeriesClient.Interval.zpow_leadingPlace_le` — the power of ten below a value.
* `SeriesClient.Decimals.toRat_strip` — zeros at the end can be dropped.
* `SeriesClient.Format.nearest_shortest` — the shortest decimal is rounded to its number.
* `SeriesClient.Format.shortest_digits_pos` — it is zero for zero alone.
-/

namespace SeriesClient

/-! ## Decimals -/

/-- The value of a decimal. -/
def Decimals.toRat (d : Decimals) : ℚ := d.digits * 10 ^ d.place

/-- A natural number other than zero has as many digits as its power of ten tells. -/
lemma pow_decimalLength_le {n : Nat} (hn : 0 < n) : 10 ^ (decimalLength n - 1) ≤ n := by
  have hpos : 0 < decimalLength n := List.length_pos_iff.mpr Nat.toDigits_ne_nil
  by_contra hless
  rw [not_le] at hless
  rcases Nat.eq_zero_or_pos (decimalLength n - 1) with hone | hmore
  · rw [hone, Nat.pow_zero] at hless
    omega
  · have hle : decimalLength n ≤ decimalLength n - 1 :=
      (Nat.length_toDigits_le_iff (by decide) hmore).mpr hless
    omega

/-- A natural number is below the power of ten of the number of its digits. -/
lemma lt_pow_decimalLength (n : Nat) : n < 10 ^ decimalLength n := by
  have hpos : 0 < decimalLength n := List.length_pos_iff.mpr Nat.toDigits_ne_nil
  exact (Nat.length_toDigits_le_iff (by decide) hpos).mp le_rfl

/-! ## Intervals -/

namespace Interval

variable {i : Interval}

/-- A rational lies in an interval; the ends do if the interval is closed. -/
structure Contains (i : Interval) (v : ℚ) : Prop where
  /-- The rational is not below the lower end. -/
  lower : (i.low : ℚ) / i.den ≤ v
  /-- The rational is not above the upper end. -/
  upper : v ≤ (i.high : ℚ) / i.den
  /-- If the interval is open, the rational is between the two ends. -/
  strict : i.closed = false → (i.low : ℚ) / i.den < v ∧ v < (i.high : ℚ) / i.den

/-- A natural number that is found in an interval lies in it. -/
lemma contains_of_holds (hden : 0 < i.den) {d : Nat} (h : i.holds d = true) :
    i.Contains d := by
  have hden' : (0 : ℚ) < i.den := Nat.cast_pos.mpr hden
  unfold holds at h
  split at h
  · next hclosed =>
    simp only [Bool.and_eq_true, decide_eq_true_iff] at h
    refine ⟨(div_le_iff₀ hden').mpr (by exact_mod_cast h.1),
      (le_div_iff₀ hden').mpr (by exact_mod_cast h.2), fun hopen => ?_⟩
    rw [hclosed] at hopen
    nomatch hopen
  · simp only [Bool.and_eq_true, decide_eq_true_iff] at h
    have hlower := (div_lt_iff₀ hden').mpr (by exact_mod_cast h.1 : (i.low : ℚ) < d * i.den)
    have hupper := (lt_div_iff₀ hden').mpr (by exact_mod_cast h.2 : (d : ℚ) * i.den < i.high)
    exact ⟨hlower.le, hupper.le, fun _ => ⟨hlower, hupper⟩⟩

/-- A quotient in units of a power of ten. -/
lemma rescale_div {num den : Nat} (p : Int) :
    (num : ℚ) / den / 10 ^ p =
      if 0 ≤ p then (num : ℚ) / (den * 10 ^ p.toNat : Nat)
      else ((num * 10 ^ (-p).toNat : Nat) : ℚ) / den := by
  split
  · next hp =>
    obtain ⟨n, rfl⟩ := Int.eq_ofNat_of_zero_le hp
    rw [zpow_natCast, div_div]
    push_cast
    rfl
  · next hp =>
    obtain ⟨n, rfl⟩ : ∃ n : Nat, p = -n := ⟨(-p).toNat, by omega⟩
    rw [zpow_neg, zpow_natCast, div_inv_eq_mul, div_mul_eq_mul_div, neg_neg, Int.toNat_natCast]
    push_cast
    rfl

/-- An interval in units of a power of ten. -/
lemma rescale_spec (i : Interval) (hden : 0 < i.den) (p : Int) :
    0 < (i.rescale p).den ∧ (i.rescale p).closed = i.closed ∧
      ((i.rescale p).low : ℚ) / (i.rescale p).den = i.low / i.den / 10 ^ p ∧
      ((i.rescale p).value : ℚ) / (i.rescale p).den = i.value / i.den / 10 ^ p ∧
      ((i.rescale p).high : ℚ) / (i.rescale p).den = i.high / i.den / 10 ^ p := by
  simp only [rescale_div]
  unfold rescale
  split
  · exact ⟨Nat.mul_pos hden (Nat.pow_pos (by decide)), rfl, rfl, rfl, rfl⟩
  · exact ⟨hden, rfl, rfl, rfl, rfl⟩

/-- What lies in an interval in units of a power of ten lies in the interval. -/
lemma contains_of_rescale (hden : 0 < i.den) {p : Int} {v : ℚ}
    (h : (i.rescale p).Contains v) : i.Contains (v * 10 ^ p) := by
  obtain ⟨-, hclosed, hlow, -, hhigh⟩ := i.rescale_spec hden p
  obtain ⟨hlower, hupper, hstrict⟩ := h
  have hpower : (0 : ℚ) < 10 ^ p := by positivity
  rw [hlow, div_le_iff₀ hpower] at hlower
  rw [hhigh, le_div_iff₀ hpower] at hupper
  rw [hclosed, hlow, hhigh, div_lt_iff₀ hpower, lt_div_iff₀ hpower] at hstrict
  exact ⟨hlower, hupper, hstrict⟩

/-- The nearest natural number is one of the two next to a quotient. -/
lemma divEven_eq_or (num den : Nat) :
    divEven num den = num / den ∨ divEven num den = num / den + 1 := by
  unfold divEven
  dsimp only
  split
  · exact .inl rfl
  · split
    · exact .inr rfl
    · rcases Nat.mod_two_eq_zero_or_one (num / den) with h | h
      · exact .inl (by rw [h, Nat.add_zero])
      · exact .inr (by rw [h])

/-- The nearest natural number in an interval lies in it. -/
lemma holds_of_nearest? {d : Nat} (h : i.nearest? = some d) : i.holds d = true := by
  unfold nearest? at h
  dsimp only at h
  split at h
  · next hdown hup =>
    obtain rfl := Option.some.inj h
    rcases divEven_eq_or i.value i.den with heq | heq
    · rw [heq, hdown]
    · rw [heq, hup]
  · next hdown _ =>
    obtain rfl := Option.some.inj h
    exact hdown
  · next _ hup =>
    obtain rfl := Option.some.inj h
    exact hup
  · nomatch h

/-- **What the search finds**: a decimal in the interval, or the one next to its value on the last
grid. -/
theorem search_outcome (hden : 0 < i.den) (count : Nat) (place : Int) :
    i.Contains (i.search count place).toRat ∨
      (i.search count place).place = place - count ∧
        |((i.search count place).digits : ℚ) - i.value / i.den / 10 ^ (place - count : Int)| ≤
          1 / 2 := by
  induction count generalizing place with
  | zero =>
    obtain ⟨hden', -, -, hvalue, -⟩ := i.rescale_spec hden place
    right
    rw [Nat.cast_zero, sub_zero, search, ← hvalue]
    exact ⟨rfl, abs_sub_divEven_le hden'⟩
  | succ count ih =>
    rw [search]
    split
    · next digits hdigits =>
      obtain ⟨hden', -⟩ := i.rescale_spec hden place
      exact .inl (contains_of_rescale hden (contains_of_holds hden' (holds_of_nearest? hdigits)))
    · have hplace : place - (count + 1 : Nat) = place - 1 - count := by
        push_cast
        ring
      rw [hplace]
      exact ih (place - 1)

/-- **The power of ten below a value.** -/
theorem zpow_leadingPlace_le (hden : 0 < i.den) (hvalue : 0 < i.value) :
    (10 : ℚ) ^ i.leadingPlace ≤ i.value / i.den := by
  have hden' : (0 : ℚ) < i.den := Nat.cast_pos.mpr hden
  have hvalue' : (0 : ℚ) < i.value := Nat.cast_pos.mpr hvalue
  unfold leadingPlace
  split
  · next hle =>
    have hquot : 0 < i.value / i.den := Nat.div_pos hle hden
    have hlength : 0 < decimalLength (i.value / i.den) :=
      List.length_pos_iff.mpr Nat.toDigits_ne_nil
    have hpow : 10 ^ (decimalLength (i.value / i.den) - 1) * i.den ≤ i.value :=
      (Nat.mul_le_mul_right _ (pow_decimalLength_le hquot)).trans (Nat.div_mul_le_self _ _)
    have hplace : (decimalLength (i.value / i.den) : Int) - 1 =
        (decimalLength (i.value / i.den) - 1 : Nat) := by omega
    rw [hplace, zpow_natCast, le_div_iff₀ hden']
    exact_mod_cast hpow
  · next hless =>
    -- the reciprocal is rounded up
    have hceil : i.den ≤ (i.den + i.value - 1) / i.value * i.value := by
      have hdiv := Nat.div_add_mod' (i.den + i.value - 1) i.value
      have hmod := Nat.mod_lt (i.den + i.value - 1) hvalue
      omega
    have hpow := lt_pow_decimalLength ((i.den + i.value - 1) / i.value - 1)
    have hreach : i.den ≤ 10 ^ decimalLength ((i.den + i.value - 1) / i.value - 1) * i.value :=
      hceil.trans (Nat.mul_le_mul_right _ (by omega))
    rw [zpow_neg, zpow_natCast, le_div_iff₀ hden', inv_mul_le_iff₀ (by positivity)]
    exact_mod_cast hreach

/-- The units that the interval of a number is kept in, a quarter of the last place each. -/
lemma scale_div_den (q : Int) :
    ((if 0 ≤ q - 2 then 2 ^ (q - 2).toNat else 1 : Nat) : ℚ) /
      (if 0 ≤ q - 2 then 1 else 2 ^ (2 - q).toNat : Nat) = 2 ^ (q - 2) := by
  split
  · next hq =>
    obtain ⟨n, hn⟩ := Int.eq_ofNat_of_zero_le hq
    rw [hn, zpow_natCast, Int.toNat_natCast, Nat.cast_one, div_one]
    push_cast
    rfl
  · next hq =>
    obtain ⟨n, hn⟩ : ∃ n : Nat, q - 2 = -n := ⟨(2 - q).toNat, by omega⟩
    have hflip : 2 - q = n := by omega
    rw [hn, hflip, zpow_neg, zpow_natCast, Int.toNat_natCast, Nat.cast_one, one_div]
    push_cast
    rfl

/-- **The interval of a number** reaches to the halfway points to its neighbours. -/
lemma ofBinary_spec (f : Format) {m : Nat} (hm : 0 < m) (q : Int) :
    0 < (ofBinary f m q).den ∧ (ofBinary f m q).closed = decide (m % 2 = 0) ∧
      ((ofBinary f m q).low : ℚ) / (ofBinary f m q).den = (m - f.gapBelow m q) * 2 ^ q ∧
      ((ofBinary f m q).value : ℚ) / (ofBinary f m q).den = m * 2 ^ q ∧
      ((ofBinary f m q).high : ℚ) / (ofBinary f m q).den = (m + 1 / 2) * 2 ^ q := by
  have hquarter : (2 : ℚ) ^ q = 4 * 2 ^ (q - 2) := by
    rw [zpow_sub₀ two_ne_zero]
    norm_num
    ring
  have hden : 0 < (ofBinary f m q).den := by
    unfold ofBinary
    dsimp only
    split
    · exact Nat.one_pos
    · exact Nat.two_pow_pos _
  refine ⟨hden, rfl, ?_, ?_, ?_⟩
  · unfold ofBinary Format.gapBelow
    dsimp only
    rw [Nat.cast_mul, mul_div_assoc, scale_div_den, hquarter]
    split
    · rw [Nat.cast_sub (by omega)]
      push_cast
      ring
    · rw [Nat.cast_sub (by omega)]
      push_cast
      ring
  · unfold ofBinary
    dsimp only
    rw [Nat.cast_mul, mul_div_assoc, scale_div_den, hquarter]
    push_cast
    ring
  · unfold ofBinary
    dsimp only
    rw [Nat.cast_mul, mul_div_assoc, scale_div_den, hquarter]
    push_cast
    ring

/-- What lies in the interval of a number is rounded to the number. -/
lemma nearest_of_contains {f : Format} {m : Nat} {q : Int} (hm : 0 < m) {v : ℚ}
    (h : (ofBinary f m q).Contains v) : f.Nearest m q v := by
  obtain ⟨-, hclosed, hlow, -, hhigh⟩ := ofBinary_spec f hm q
  obtain ⟨hlower, hupper, hstrict⟩ := h
  rw [hlow] at hlower
  rw [hhigh] at hupper
  rw [hclosed, hlow, hhigh] at hstrict
  exact ⟨hlower, hupper, fun hodd => hstrict (decide_eq_false (by omega))⟩

end Interval

/-! ## Zeros at the end -/

/-- **Zeros at the end can be dropped**: the decimal stays the same number. -/
theorem Decimals.toRat_strip (d : Decimals) : d.strip.toRat = d.toRat := by
  unfold strip
  dsimp only
  split
  · next hzero =>
    simp only [toRat, hzero, Nat.cast_zero, zero_mul]
  generalize hkept : (Nat.toDigits 10 d.digits).reverse.dropWhile (· = '0') = kept
  generalize hzeros : (Nat.toDigits 10 d.digits).reverse.takeWhile (· = '0') = zeros
  have hsplit : Nat.toDigits 10 d.digits = kept.reverse ++ zeros.reverse := by
    rw [← List.reverse_append, ← hkept, ← hzeros, List.takeWhile_append_dropWhile,
      List.reverse_reverse]
  have hall : zeros = List.replicate zeros.length '0' := by
    refine List.eq_replicate_of_mem fun c hc => ?_
    rw [← hzeros] at hc
    exact of_decide_eq_true (List.all_eq_true.mp List.all_takeWhile c hc)
  have hdropped : (Nat.toDigits 10 d.digits).length - kept.length = zeros.length := by
    rw [hsplit, List.length_append, List.length_reverse, List.length_reverse]
    omega
  have hdigits : d.digits = 10 ^ zeros.length * Nat.ofDigitChars 10 kept.reverse 0 := by
    calc d.digits = Nat.ofDigitChars 10 (kept.reverse ++ zeros.reverse) 0 := by
          rw [← hsplit, Nat.ofDigitChars_ten_toDigits]
      _ = 10 ^ zeros.length * Nat.ofDigitChars 10 kept.reverse 0 := by
          rw [Nat.ofDigitChars_append, hall, List.reverse_replicate,
            Nat.ofDigitChars_replicate_zero, List.length_replicate]
  rw [hdropped, toRat, toRat]
  generalize Nat.ofDigitChars 10 kept.reverse 0 = n at hdigits
  rw [hdigits, Nat.mul_div_cancel_left _ (Nat.pow_pos (by decide)), zpow_add₀ (by norm_num),
    zpow_natCast]
  push_cast
  ring

/-- The digits of a decimal above zero are not zero. -/
lemma Decimals.digits_pos {d : Decimals} (h : 0 < d.toRat) : 0 < d.digits := by
  rw [toRat, mul_pos_iff_of_pos_right (by positivity)] at h
  exact_mod_cast h

/-! ## Shortest decimals -/

namespace Format

variable {f : Format} {m : Nat} {q : Int}

/-- What is closer to a number than a part in twice ten to the sixteenth is rounded to it, if the
format has no more than 52 fraction bits. -/
lemma nearest_of_close (hf : f.fractionBits ≤ 52) (h : f.Holds m q) {v : ℚ}
    (hclose : |v - m * 2 ^ q| ≤ m * 2 ^ q / (2 * 10 ^ 16)) : f.Nearest m q v := by
  have hpower : (0 : ℚ) < 2 ^ q := by positivity
  have hgap := f.gapBelow_le m q
  have hsmall : (m : ℚ) / (2 * 10 ^ 16) < f.gapBelow m q := by
    have hpow : 2 ^ f.fractionBits ≤ 2 ^ 52 := Nat.pow_le_pow_right (by decide) hf
    unfold gapBelow
    split
    · next hpower =>
      have hle : (m : ℚ) ≤ 2 ^ 52 := by exact_mod_cast hpower.1.trans_le hpow
      rw [div_lt_iff₀ (by norm_num)]
      norm_num at hle ⊢
      linarith
    · have hlt : m < 2 ^ 53 := by
        have hlt := h.lt
        rw [Nat.pow_succ] at hlt
        omega
      have hlt : (m : ℚ) < 2 ^ 53 := by exact_mod_cast hlt
      rw [div_lt_iff₀ (by norm_num)]
      norm_num at hlt ⊢
      linarith
  have hstrict : |v - m * 2 ^ q| < f.gapBelow m q * 2 ^ q := by
    calc |v - m * 2 ^ q| ≤ m * 2 ^ q / (2 * 10 ^ 16) := hclose
      _ = m / (2 * 10 ^ 16) * 2 ^ q := by ring
      _ < f.gapBelow m q * 2 ^ q := mul_lt_mul_of_pos_right hsmall hpower
  obtain ⟨hlower, hupper⟩ := abs_lt.mp hstrict
  have hlower : (m - f.gapBelow m q) * 2 ^ q < v := by linarith
  have hupper : v < (m + 1 / 2) * 2 ^ q := by nlinarith
  exact ⟨hlower.le, hupper.le, fun _ => ⟨hlower, hupper⟩⟩

/-- **What the shortest decimal of a number is**: a decimal that is rounded to the number, or one
that is next to it on a grid of ten to the sixteenth of the power of ten below it.

**Proof sketch.** Dropping zeros keeps the decimal. What the search finds is in the interval of the
number, or it is the point of its last grid next to the number. -/
lemma shortest_outcome (f : Format) (hm : 0 < m) (q : Int) :
    f.Nearest m q (f.shortest m q).toRat ∨
      |(f.shortest m q).toRat - m * 2 ^ q| ≤ m * 2 ^ q / (2 * 10 ^ 16) := by
  obtain ⟨hden, -, -, hvalue, -⟩ := Interval.ofBinary_spec f hm q
  have hpos : 0 < (Interval.ofBinary f m q).value := by
    have hvalue' : (0 : ℚ) < (Interval.ofBinary f m q).value / (Interval.ofBinary f m q).den := by
      rw [hvalue]
      positivity
    rw [div_pos_iff_of_pos_right (by exact_mod_cast hden)] at hvalue'
    exact_mod_cast hvalue'
  rw [shortest, if_neg hm.ne']
  dsimp only
  rw [Decimals.toRat_strip]
  have hlead := Interval.zpow_leadingPlace_le hden hpos
  generalize (Interval.ofBinary f m q).leadingPlace = place at hlead
  rcases Interval.search_outcome hden 16 place with hfound | ⟨hplace, hnear⟩
  · exact .inl (Interval.nearest_of_contains hm hfound)
  · generalize (Interval.ofBinary f m q).search 16 place = d at hplace hnear
    rw [hvalue] at hlead hnear
    have hgrid : (0 : ℚ) < 10 ^ (place - (16 : Nat) : Int) := by positivity
    have hunit : (10 : ℚ) ^ place = 10 ^ 16 * 10 ^ (place - (16 : Nat) : Int) := by
      rw [← zpow_natCast, ← zpow_add₀ (by norm_num)]
      congr 1
      push_cast
      ring
    right
    rw [Decimals.toRat, hplace]
    generalize (10 : ℚ) ^ (place - (16 : Nat) : Int) = unit at hnear hgrid hunit
    have hscaled : (d.digits : ℚ) * unit - m * 2 ^ q = (d.digits - m * 2 ^ q / unit) * unit := by
      field_simp
    calc |(d.digits : ℚ) * unit - m * 2 ^ q| = |d.digits - m * 2 ^ q / unit| * unit := by
          rw [hscaled, abs_mul, abs_of_pos hgrid]
      _ ≤ 1 / 2 * unit := mul_le_mul_of_nonneg_right hnear hgrid.le
      _ = 10 ^ place / (2 * 10 ^ 16) := by
          rw [hunit]
          field_simp
      _ ≤ m * 2 ^ q / (2 * 10 ^ 16) := div_le_div_of_nonneg_right hlead (by positivity)

/-- **The shortest decimal is rounded to its number**, if the format has no more than 52 fraction
bits: the neighbours of a number are farther from it than any point of the last grid next to it. -/
theorem nearest_shortest (hf : f.fractionBits ≤ 52) (h : f.Holds m q) (hm : 0 < m) :
    f.Nearest m q (f.shortest m q).toRat :=
  (f.shortest_outcome hm q).elim id (nearest_of_close hf h)

/-- The shortest decimal of a number other than zero is not zero, in any format. -/
theorem shortest_digits_pos (f : Format) (hm : 0 < m) (q : Int) :
    0 < (f.shortest m q).digits := by
  refine Decimals.digits_pos ?_
  rcases f.shortest_outcome hm q with hnearest | hclose
  · exact hnearest.pos hm
  · have hvalue : (0 : ℚ) < m * 2 ^ q := by positivity
    have hsmall : (m : ℚ) * 2 ^ q / (2 * 10 ^ 16) < m * 2 ^ q := by
      rw [div_lt_iff₀ (by norm_num)]
      linarith
    have hlower := (abs_le.mp hclose).1
    linarith

end Format

end SeriesClient
