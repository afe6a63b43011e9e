import Mathlib.Tactic.Lemma
import SeriesClient.Number.Decimal

set_option relaxedAutoImplicit false
set_option autoImplicit false

/-!
# Digits that read back

The decimal digits of natural numbers and integers, and what they are read as; and the digits of a
floating-point number in positional notation.

## Main definitions

* `SeriesClient.IsNumeral` — positional notation.

## Main results

* `SeriesClient.digits?_natDigits` — the digits of a natural number are that number.
* `SeriesClient.signed?_intDigits` — the digits of an integer, with their sign, are that integer.
* `SeriesClient.eq_nil_of_natDigits` — no zero stands in front of other digits.
* `SeriesClient.Floating.isNumeral_positional` — finite numbers are in positional notation.
-/

namespace SeriesClient

/-- The digits of a natural number are digits. -/
lemma isDigit_of_mem_natDigits {n : Nat} {c : Char} (hc : c ∈ natDigits n) :
    c.isDigit = true :=
  Nat.isDigit_of_mem_toDigits (by decide) (by decide) hc

/-- A digit is no other character. -/
lemma ne_of_isDigit {c d : Char} (hc : c.isDigit = true) (hd : d.isDigit = false) : c ≠ d := by
  rintro rfl
  exact Bool.false_ne_true (hd.symm.trans hc)

/-- A natural number has digits. -/
lemma natDigits_ne_nil (n : Nat) : natDigits n ≠ [] := Nat.toDigits_ne_nil

/-- Digits are read as the number that they stand for. -/
lemma digits?_of_isDigit {cs : List Char} (hne : cs ≠ []) (hall : ∀ c ∈ cs, c.isDigit = true) :
    DecimalNumber.digits? cs = some (Nat.ofDigitChars 10 cs 0) := by
  have hempty : cs.isEmpty = false := List.isEmpty_eq_false_iff.mpr hne
  have hvalue : cs.foldl (fun k c => k * 10 + (c.toNat - '0'.toNat)) 0 =
      Nat.ofDigitChars 10 cs 0 := by
    rw [Nat.ofDigitChars_eq_foldl]
    simp only [Nat.mul_comm]
  rw [DecimalNumber.digits?, hempty, List.all_eq_true.mpr hall, hvalue]
  rfl

/-- The digits of a natural number are that number. -/
theorem digits?_natDigits (n : Nat) : DecimalNumber.digits? (natDigits n) = some n := by
  rw [digits?_of_isDigit (natDigits_ne_nil n) fun _ hc => isDigit_of_mem_natDigits hc, natDigits,
    Nat.ofDigitChars_ten_toDigits]

/-- Digits that are filled up with zeros are digits. -/
lemma isDigit_of_mem_paddedDigits {width n : Nat} {c : Char} (hc : c ∈ paddedDigits width n) :
    c.isDigit = true := by
  rcases List.mem_append.mp hc with hc | hc
  · rw [List.eq_of_mem_replicate hc]
    rfl
  · exact isDigit_of_mem_natDigits hc

/-- A natural number has digits also when they are filled up with zeros. -/
lemma paddedDigits_ne_nil (width n : Nat) : paddedDigits width n ≠ [] :=
  List.append_ne_nil_of_right_ne_nil _ (natDigits_ne_nil n)

/-- Digits that are filled up with zeros are read as the same number. -/
lemma digits?_paddedDigits (width n : Nat) :
    DecimalNumber.digits? (paddedDigits width n) = some n := by
  rw [digits?_of_isDigit (paddedDigits_ne_nil width n) fun _ hc => isDigit_of_mem_paddedDigits hc]
  unfold paddedDigits
  dsimp only
  rw [Nat.ofDigitChars_append, Nat.ofDigitChars_replicate_zero, Nat.mul_zero, natDigits,
    Nat.ofDigitChars_ten_toDigits]

/-- Digits behind a minus sign. -/
lemma signed?_minus {cs : List Char} {n : Nat} (h : DecimalNumber.digits? cs = some n) :
    DecimalNumber.signed? ('-' :: cs) = some (-(n : Int)) := by
  rw [DecimalNumber.signed?, h]
  rfl

/-- Digits behind a plus sign. -/
lemma signed?_plus {cs : List Char} {n : Nat} (h : DecimalNumber.digits? cs = some n) :
    DecimalNumber.signed? ('+' :: cs) = some (n : Int) := by
  rw [DecimalNumber.signed?, h]
  rfl

/-- The digits of an integer, with their sign, are that integer. -/
theorem signed?_intDigits (n : Int) : DecimalNumber.signed? (intDigits n) = some n := by
  have hsign : ∀ {c : Char} {cs : List Char}, natDigits n.natAbs = c :: cs → c.isDigit = true := by
    intro c cs h
    apply isDigit_of_mem_natDigits
    rw [h]
    exact List.mem_cons_self
  unfold intDigits
  split
  · next hneg =>
    rw [signed?_minus (digits?_natDigits _)]
    congr 1
    omega
  · next hpos =>
    have habs : Int.ofNat n.natAbs = n := by
      simp only [Int.ofNat_eq_natCast]
      omega
    unfold DecimalNumber.signed?
    split
    · next heq => exact absurd (hsign heq) (by decide)
    · next heq => exact absurd (hsign heq) (by decide)
    · rw [digits?_natDigits, Option.map_some, habs]

/-- An integer is written with its sign and the digits of its size. -/
lemma intDigits_eq (n : Int) :
    intDigits n = Floating.signText (decide (n < 0)) ++ natDigits n.natAbs := by
  unfold intDigits
  split
  · next hneg =>
    rw [decide_eq_true hneg]
    rfl
  · next hpos =>
    rw [decide_eq_false hpos]
    rfl

/-- **No zero stands in front of other digits.** -/
theorem eq_nil_of_natDigits {n : Nat} {rest : List Char} (h : natDigits n = '0' :: rest) :
    rest = [] := by
  induction n using Nat.strongRecOn generalizing rest with
  | ind n ih =>
    by_cases hsmall : n < 10
    · rw [natDigits, Nat.toDigits_of_lt_base hsmall] at h
      exact (List.cons.inj h).2.symm
    · rw [natDigits, Nat.toDigits_eq_if (by decide), if_neg hsmall] at h
      rcases hfirst : natDigits (n / 10) with _ | ⟨c, cs⟩
      · exact absurd hfirst (natDigits_ne_nil _)
      · have hfirst' : Nat.toDigits 10 (n / 10) = c :: cs := hfirst
        rw [hfirst', List.cons_append] at h
        obtain ⟨rfl, -⟩ := List.cons.inj h
        -- the digits but the last one would be a lone zero
        obtain rfl := ih (n / 10) (by omega) hfirst
        have hvalue := digits?_natDigits (n / 10)
        rw [hfirst] at hvalue
        have hzero : 0 = n / 10 := Option.some.inj hvalue
        omega

/-! ## Positional notation -/

/-- Positional notation: an optional minus sign, digits, a point and digits. -/
def IsNumeral (cs : List Char) : Prop :=
  ∃ negative whole fraction, whole ≠ [] ∧ fraction ≠ [] ∧
    (∀ c ∈ whole ++ fraction, c.isDigit = true) ∧
    cs = Floating.signText negative ++ whole ++ '.' :: fraction

/-- A decimal is spelled with digits on each side of the point. -/
lemma Decimals.exists_digits (d : Decimals) : ∃ whole fraction, whole ≠ [] ∧ fraction ≠ [] ∧
    (∀ c ∈ whole ++ fraction, c.isDigit = true) ∧ d.positional = whole ++ '.' :: fraction := by
  have hzeros : ∀ k, ∀ c ∈ List.replicate k '0', c.isDigit = true := fun k c hc => by
    rw [List.eq_of_mem_replicate hc]
    rfl
  unfold positional
  dsimp only
  split
  · refine ⟨natDigits d.digits ++ List.replicate d.place.toNat '0', ['0'],
      List.append_ne_nil_of_left_ne_nil (natDigits_ne_nil _) _, List.cons_ne_nil _ _, ?_, rfl⟩
    intro c hc
    rw [List.append_assoc, ← List.replicate_succ', List.mem_append] at hc
    exact hc.elim isDigit_of_mem_natDigits (hzeros _ c)
  · next hplace =>
    generalize hfilled : List.replicate ((-d.place).toNat + 1 - (natDigits d.digits).length) '0' ++
      natDigits d.digits = filled
    have hlength : (-d.place).toNat + 1 ≤ filled.length := by
      rw [← hfilled, List.length_append, List.length_replicate]
      omega
    refine ⟨_, _, ?_, ?_, ?_, rfl⟩
    · rw [← List.length_pos_iff, List.length_take]
      omega
    · rw [← List.length_pos_iff, List.length_drop]
      omega
    · intro c hc
      rw [List.take_append_drop, ← hfilled, List.mem_append] at hc
      exact hc.elim (hzeros _ c) isDigit_of_mem_natDigits

/-- **Finite numbers are in positional notation.** -/
theorem Floating.isNumeral_positional (f : Format) {x : Floating} (h : x.isFinite = true) :
    IsNumeral (x.positional f) := by
  cases x with
  | nan => cases h
  | infinite negative => cases h
  | finite negative m q =>
    obtain ⟨whole, fraction, hwhole, hfraction, hdigits, htext⟩ := (f.shortest m q).exists_digits
    refine ⟨negative, whole, fraction, hwhole, hfraction, hdigits, ?_⟩
    rw [List.append_assoc, ← htext]
    rfl

end SeriesClient
