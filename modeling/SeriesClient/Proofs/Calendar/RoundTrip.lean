import Mathlib.Tactic.Lemma
import SeriesClient.Calendar.DateTime

set_option relaxedAutoImplicit false
set_option autoImplicit false

/-!
# Counts and the calendar

The date of a day and the clock reading of a moment tell which day and which moment it is, in every
zone.

## Main results

* `SeriesClient.Date.toDays_ofDays` — a day is that of its date.
* `SeriesClient.TimeOfDay.toMicros_ofMicros` — a moment of a day is that of its reading.
* `SeriesClient.DateTime.toMicros_ofMicros` — an instant is the one that its date-time shows.

## Design

Days are counted from the first day of year 1 by the cycles of the calendar: 400 years have 146097
days, a century 36524, four years 1461, and a year 365, up to one day that the last of them has
more. -/

namespace SeriesClient

namespace Date

/-- The days before the next month are those before a month and those of it. -/
lemma daysBeforeMonth_succ (year : Int) {month : Nat} (h : 1 ≤ month) :
    daysBeforeMonth year (month + 1) = daysBeforeMonth year month + daysInMonth year month := by
  obtain ⟨m, rfl⟩ := Nat.exists_eq_add_of_le' h
  rfl

/-- Walking over the months does not lose a day. -/
lemma daysBeforeMonth_monthAndDay (year : Int) (fuel : Nat) {month : Nat} (h : 1 ≤ month)
    (day : Nat) :
    daysBeforeMonth year (monthAndDay year fuel month day).1 +
        (monthAndDay year fuel month day).2 =
      daysBeforeMonth year month + day + 1 := by
  induction fuel generalizing month day with
  | zero => rfl
  | succ fuel ih =>
    rw [monthAndDay]
    split
    · rfl
    · rw [ih (Nat.le_add_left 1 month), daysBeforeMonth_succ year h]
      omega

/-- The days before a year, by its place in the cycles of the calendar. -/
lemma daysBeforeYear_cycles {era century cycle rest : Int} (hcentury : 0 ≤ century ∧ century ≤ 3)
    (hcycle : 0 ≤ cycle ∧ cycle ≤ 24) (hrest : 0 ≤ rest ∧ rest ≤ 3) :
    daysBeforeYear (era * 400 + century * 100 + cycle * 4 + rest + 1) =
      era * 146097 + century * 36524 + cycle * 1461 + rest * 365 := by
  simp only [daysBeforeYear]
  omega

/-- **A day is that of its date.** -/
theorem toDays_ofDays (days : Int) : (ofDays days).toDays = days := by
  simp only [ofDays, toDays]
  generalize hn : days + epochDays = n
  have hcentury : 0 ≤ min (n % 146097 / 36524) 3 ∧ min (n % 146097 / 36524) 3 ≤ 3 := by omega
  generalize hinCentury : n % 146097 - min (n % 146097 / 36524) 3 * 36524 = inCentury
  have hbound : 0 ≤ inCentury ∧ inCentury ≤ 36524 := by omega
  have hrest : 0 ≤ min (inCentury % 1461 / 365) 3 ∧ min (inCentury % 1461 / 365) 3 ≤ 3 := by omega
  rw [daysBeforeYear_cycles hcentury (by omega) hrest]
  have hmonths := daysBeforeMonth_monthAndDay
    (n / 146097 * 400 + min (n % 146097 / 36524) 3 * 100 + inCentury / 1461 * 4 +
      min (inCentury % 1461 / 365) 3 + 1) 11 (Nat.le_refl 1)
    (inCentury % 1461 - min (inCentury % 1461 / 365) 3 * 365).toNat
  rw [daysBeforeMonth] at hmonths
  omega

end Date

/-- **A moment of a day is that of its reading.** -/
theorem TimeOfDay.toMicros_ofMicros {n : Nat} (h : n < 86400000000) :
    (ofMicros n).toMicros = n := by
  simp only [ofMicros, toMicros]
  omega

/-- **An instant is the one that its date-time shows**, whatever the zone. -/
theorem DateTime.toMicros_ofMicros (micros : Int) (offset : Option Offset) :
    (ofMicros micros offset).toMicros = micros := by
  simp only [ofMicros, toMicros, localMicros, Date.toDays_ofDays]
  generalize hshown : micros + (offset.map Offset.micros).getD 0 = shown
  have hreading : (shown % microsPerDay).toNat < 86400000000 := by
    simp only [microsPerDay]
    omega
  rw [TimeOfDay.toMicros_ofMicros hreading]
  simp only [microsPerDay] at *
  omega

end SeriesClient
