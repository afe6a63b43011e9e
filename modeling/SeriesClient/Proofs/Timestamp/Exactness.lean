import SeriesClient.Proofs.Calendar.DayCount
import SeriesClient.Timestamp

set_option relaxedAutoImplicit false
set_option autoImplicit false

/-!
# Date-times are converted exactly

A date-time is converted to the nanoseconds of the instant that it shows. The instant is found here
by counting days one at a time; how it is computed, and in which zone it is shown, makes no
difference to it.

## Main definitions

* `SeriesClient.DateTime.Denotes` — the instant that a date-time shows.

## Main results

* `SeriesClient.DateTime.denotes_iff` — the instant that is shown is the one that is computed.
* `SeriesClient.Ticks.toNanos_micro` — a count of microseconds is converted exactly if it fits.
* `SeriesClient.Timestamp.dateTimes_exact` — all ways to convert a date-time lead to its instant.

## Design

Nothing is asked of the clock reading and of the offset, which may be any number of microseconds.
-/

namespace SeriesClient

/-- The instant that a date-time shows, in microseconds since 1970-01-01T00:00 universal time: days
are counted one at a time, and a date-time without an offset is in universal time. -/
def DateTime.Denotes (t : DateTime) (micros : Int) : Prop :=
  ∃ days, t.date.IsCounted days ∧
    micros = days * 86400000000 + t.time.hour * 3600000000 + t.time.minute * 60000000 +
      t.time.second * 1000000 + t.time.micro - (t.offset.map Offset.micros).getD 0

/-- **The instant that is shown is the one that is computed.** -/
theorem DateTime.denotes_iff {t : DateTime} (h : t.date.isValid = true) (micros : Int) :
    t.Denotes micros ↔ micros = t.toMicros := by
  have hcounted := Date.isCounted_iff (Date.exists_of_isValid h)
  unfold Denotes toMicros localMicros microsPerDay TimeOfDay.toMicros
  constructor
  · rintro ⟨days, hdays, rfl⟩
    rw [(hcounted days).mp hdays]
    omega
  · rintro rfl
    refine ⟨t.date.toDays, (hcounted _).mpr rfl, ?_⟩
    omega

/-- A duration is the sum of its days, seconds and microseconds, before 1970 as well as after. -/
lemma Duration.sum_parts (n : Int) : (days n * 86400 + seconds n) * 1000000 + micros n = n := by
  simp only [days, seconds, micros, DateTime.microsPerDay]
  omega

/-- A count of microseconds is converted exactly if the nanoseconds fit into 64 bits. -/
theorem Ticks.toNanos_micro {n : Int} (hlower : -2 ^ 63 ≤ 1000 * n) (hupper : 1000 * n < 2 ^ 63) :
    (⟨some n, .micro⟩ : Ticks).toNanos = 1000 * n := by
  have hnanos : nanosOf n .micro = 1000 * n := Int.mul_comm n 1000
  rw [toNanos_of_fits (by omega) (by omega), hnanos]

namespace Timestamp

/-- **Date-times are converted exactly.** Let `t` and `u` be date-times of the years 1 to 9999, with
any offset or none. There is one instant that `t` shows, by counting days one at a time. Its
nanoseconds, 1000 to the microsecond, are what the date-time is converted to, what its microseconds
are scaled to, and what an application and a column get for it, whatever the unit they name; and
also what they get for a count of these microseconds, if the nanoseconds fit into 64 bits. Days,
seconds and microseconds of the time since 1970 add up to it, before 1970 too. So two date-times are
converted alike if and only if they show the same instant, and in the order of their instants. -/
theorem dateTimes_exact {t u : DateTime} (ht : t.date.isValid = true) (hu : u.date.isValid = true)
    (unit : Value) (cell : Option Precision) :
    ∃ micros, (∀ n, t.Denotes n ↔ n = micros) ∧
      ofDateTime (.datetime t) = .ok (1000 * micros) ∧
      ((Duration.days micros * 86400 + Duration.seconds micros) * 1000000 +
          Duration.micros micros) * 1000 = 1000 * micros ∧
      toNanos (.int micros) (.precision .micro) = .ok (some (1000 * micros)) ∧
      ofApplication (.datetime t) unit = .ok (some (1000 * micros)) ∧
      ofCell? (.datetime t) cell = some (1000 * micros) ∧
      (-2 ^ 63 ≤ 1000 * micros → 1000 * micros < 2 ^ 63 →
        ofApplication (.ticks ⟨some micros, .micro⟩) unit = .ok (some (1000 * micros)) ∧
          ofCell? (.ticks ⟨some micros, .micro⟩) cell = some (1000 * micros)) ∧
      ∀ n, u.Denotes n →
        (ofDateTime (.datetime t) = ofDateTime (.datetime u) ↔ micros = n) ∧
          (t.toNanos < u.toNanos ↔ micros < n) := by
  refine ⟨t.toMicros, DateTime.denotes_iff ht, ?_, ?_, ?_, ?_, ?_, ?_, ?_⟩
  · rw [ofDateTime, t.toNanos_eq]
  · rw [Duration.sum_parts, Int.mul_comm]
  · rw [Int.mul_comm]
    rfl
  · rw [ofApplication, t.toNanos_eq]
  · rw [ofCell?, t.toNanos_eq]
  · intro hlower hupper
    rw [ofApplication, ofCell?, Ticks.toNanos_micro hlower hupper]
    exact ⟨rfl, rfl⟩
  · intro n hn
    obtain rfl := (DateTime.denotes_iff hu n).mp hn
    have hnanos := t.toNanos_eq
    have hnanos' := u.toNanos_eq
    refine ⟨?_, by omega⟩
    simp only [ofDateTime, Except.ok.injEq]
    omega

/-- The last microsecond before the first of March 2024 in India. -/
def leapDayEnd : DateTime := ⟨⟨2024, 2, 29⟩, ⟨23, 59, 59, 999999⟩, some (.ofSeconds 19800)⟩

/-- The last microsecond before 1970, without an offset. -/
def lastMicro : DateTime := ⟨⟨1969, 12, 31⟩, ⟨23, 59, 59, 999999⟩, none⟩

/-- A leap day that has not ended yet in universal time, and the microsecond before 1970. -/
theorem dateTimes_exact_leapDayEnd :
    leapDayEnd.date.isValid = true ∧ lastMicro.date.isValid = true ∧
      leapDayEnd.Denotes 1709231399999999 ∧
      ofApplication (.datetime leapDayEnd) (.precision .second) =
        .ok (some 1709231399999999000) ∧
      ofCell? (.ticks ⟨some 1709231399999999, .micro⟩) none = some 1709231399999999000 ∧
      lastMicro.Denotes (-1) ∧ lastMicro.toNanos < leapDayEnd.toNanos := by
  have hleap : leapDayEnd.date.isValid = true := by decide
  have hlast : lastMicro.date.isValid = true := by decide
  obtain ⟨micros, hdenotes, hnanos, -, -, hset, -, hticks, -⟩ :=
    dateTimes_exact hleap hlast (.precision .second) none
  obtain ⟨micros', hdenotes', hnanos', -, -, -, -, -, horder⟩ :=
    dateTimes_exact hlast hleap (.precision .second) none
  have hmicros : leapDayEnd.toNanos = 1000 * micros := Except.ok.inj hnanos
  have hmicros' : lastMicro.toNanos = 1000 * micros' := Except.ok.inj hnanos'
  rw [show leapDayEnd.toNanos = 1709231399999999000 by decide +kernel] at hmicros
  rw [show lastMicro.toNanos = -1000 by decide +kernel] at hmicros'
  obtain rfl : 1709231399999999 = micros := by omega
  obtain rfl : -1 = micros' := by omega
  have hleapDenotes := (hdenotes _).mpr rfl
  exact ⟨hleap, hlast, hleapDenotes, hset, (hticks (by omega) (by omega)).2,
    (hdenotes' _).mpr rfl, (horder _ hleapDenotes).2.mpr (by omega)⟩

end Timestamp

end SeriesClient
