import SeriesClient.Proofs.Number.Truncation
import SeriesClient.Timestamp

set_option relaxedAutoImplicit false
set_option autoImplicit false

/-!
# Conversion between units

A number of nanoseconds is converted to a unit and back. What is lost is the part below the unit,
and nothing but that, and it is lost towards zero.

## Main results

* `SeriesClient.Precision.scale_dvd_scale` — a coarser unit is a multiple of a finer one.
* `SeriesClient.Timestamp.conversions_truncate` — the laws of conversion.

## Design

A unit is given as the setting that names it, by any of its names. Any setting that names a unit
does.
-/

namespace SeriesClient

/-- A coarser unit is a multiple of a finer one. -/
theorem Precision.scale_dvd_scale {P Q : Precision} (h : P.scale ≤ Q.scale) :
    P.scale ∣ Q.scale := by
  revert h
  cases P <;> cases Q <;> decide

namespace Timestamp

variable {P Q : Precision} {p q : Value}

/-- A count is scaled by the unit that is named. -/
lemma toNanos_int (hp : Precision.ofValue p = .ok P) (n : Int) :
    toNanos (.int n) p = .ok (some (n * P.scale)) := by
  simp only [toNanos, count, hp]
  rfl

/-- A number of nanoseconds is divided by the unit that is named. -/
lemma fromNanos_int (hp : Precision.ofValue p = .ok P) (n : Int) :
    fromNanos (.int n) p = .ok (some (truncDiv n P.scale)) := by
  simp only [fromNanos, Value.toInt_int, hp]
  rfl

/-- **Conversion loses exactly what is below the unit, towards zero.** Let `p` name a unit that is
not coarser than the one that `q` names. A count of the unit comes back from nanoseconds as it was.
A number `n` of nanoseconds comes back from the unit as `back`: less than the unit is lost, namely
the remainder of the division by it, nothing moves away from zero or over to the other side of it,
and nothing is lost of multiples of the unit and of these only. Conversion keeps the order and the
opposite, and to convert to the finer unit first makes no difference to the coarser one. -/
theorem conversions_truncate (hfine : P.scale ≤ Q.scale) (hp : Precision.ofValue p = .ok P)
    (hq : Precision.ofValue q = .ok Q) (n m v : Int) :
    (∃ nanos, toNanos (.int v) p = .ok (some nanos) ∧
        fromNanos (.int nanos) p = .ok (some v)) ∧
      ∃ a b c back, fromNanos (.int n) p = .ok (some a) ∧ fromNanos (.int m) p = .ok (some b) ∧
        fromNanos (.int n) q = .ok (some c) ∧ toNanos (.int a) p = .ok (some back) ∧
        (|n - back| < P.scale ∧ back = n - n.tmod P.scale) ∧
        |back| ≤ |n| ∧
        (back = 0 ∨ back.sign = n.sign) ∧
        (back = n ↔ P.scale ∣ n) ∧
        (n ≤ m → a ≤ b) ∧
        fromNanos (.int (-n)) p = .ok (some (-a)) ∧
        fromNanos (.int back) q = .ok (some c) := by
  have hpos : 0 < P.scale := P.scale_pos
  refine ⟨⟨v * P.scale, toNanos_int hp v, ?_⟩, truncDiv n P.scale, truncDiv m P.scale,
    truncDiv n Q.scale, truncDiv n P.scale * P.scale, fromNanos_int hp n, fromNanos_int hp m,
    fromNanos_int hq n, toNanos_int hp _, ?_, abs_truncDiv_mul_le hpos n, truncDiv_mul_sign hpos n,
    truncDiv_mul_eq_self_iff hpos n, truncDiv_le_truncDiv hpos n, ?_, ?_⟩
  · rw [fromNanos_int hp, truncDiv_mul_self hpos]
  · exact ⟨abs_sub_truncDiv_mul_lt hpos n, truncDiv_mul_eq hpos n⟩
  · rw [fromNanos_int hp, truncDiv_neg]
  · have hscale := Precision.scale_dvd_scale hfine
    rw [fromNanos_int hq, truncDiv_mul_truncDiv hpos n Q.scale_pos hscale]

/-- Before 1970, in milliseconds and in seconds: what is below the millisecond is cut off towards
zero, and the seconds are the same with and without it. -/
theorem conversions_truncate_lastSecond :
    Precision.milli.scale ≤ Precision.second.scale ∧
      Precision.ofValue (.text "MS") = .ok .milli ∧
      Precision.ofValue (.precision .second) = .ok .second ∧
      ∃ back, toNanos (.int (-1999)) (.text "MS") = .ok (some back) ∧
        |(-1999999999) - back| < Precision.milli.scale ∧
        fromNanos (.int back) (.precision .second) = .ok (some (-1)) := by
  have hfine : Precision.milli.scale ≤ Precision.second.scale := by decide
  have hmilli : Precision.ofValue (.text "MS") = .ok .milli := by rfl
  have hsecond : Precision.ofValue (.precision .second) = .ok .second := by rfl
  refine ⟨hfine, hmilli, hsecond, ?_⟩
  obtain ⟨-, a, b, c, back, ha, -, hc, hback, ⟨hlost, -⟩, -, -, -, -, -, htwice⟩ :=
    conversions_truncate hfine hmilli hsecond (-1999999999) 0 7
  obtain rfl : -1999 = a := Option.some.inj (Except.ok.inj ha)
  obtain rfl : -1 = c := Option.some.inj (Except.ok.inj hc)
  exact ⟨back, hback, hlost, htwice⟩

end Timestamp

end SeriesClient
