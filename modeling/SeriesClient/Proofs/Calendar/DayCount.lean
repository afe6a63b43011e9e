import Mathlib.Order.Monotone.Basic
import SeriesClient.Proofs.Calendar.RoundTrip

set_option relaxedAutoImplicit false
set_option autoImplicit false

/-!
# Days, one at a time

The number of a day can be found by stepping from one day to the next, with nothing to go by but the
lengths of the months. It is the number that the cycles of the calendar give.

## Main definitions

* `SeriesClient.Date.Exists` — a day that the calendar has.
* `SeriesClient.Date.IsCounted` — the number of a day, by steps from one day to the next.

## Main results

* `SeriesClient.Date.toDays_next` — the next day has the next number.
* `SeriesClient.Date.eq_of_toDays_eq` — no two days have the same number.
* `SeriesClient.Date.isCounted_iff` — stepping and computing give the same number.

## Design

Days before the epoch are counted by the steps that lead from them to the epoch, so that only the
next day is ever asked for. Years are not bounded.
-/

namespace SeriesClient.Date

/-- A day that the calendar has, in any year. -/
structure Exists (d : Date) : Prop where
  /-- Months are counted from 1. -/
  month_pos : 1 ≤ d.month
  /-- A year has twelve months. -/
  month_le : d.month ≤ 12
  /-- Days are counted from 1. -/
  day_pos : 1 ≤ d.day
  /-- The month has the day. -/
  day_le : d.day ≤ daysInMonth d.year d.month

/-- A valid date is a day that the calendar has. -/
lemma exists_of_isValid {d : Date} (h : d.isValid = true) : d.Exists := by
  simp only [isValid, Bool.and_eq_true, decide_eq_true_eq] at h
  obtain ⟨⟨⟨⟨-, hmonth⟩, hmonth'⟩, hday⟩, hday'⟩ := h
  exact ⟨hmonth, hmonth', hday, hday'⟩

/-! ## Years and months -/

/-- The number of days of a year. -/
def daysInYear (year : Int) : Nat := if isLeap year then 366 else 365

/-- The twelve months of a year have its days. -/
lemma daysBeforeMonth_twelve (year : Int) :
    daysBeforeMonth year 12 + daysInMonth year 12 = daysInYear year := by
  simp only [daysBeforeMonth, daysInMonth, daysInYear]
  cases isLeap year <;> rfl

/-- The days before the next year are those before a year and those of it. -/
lemma daysBeforeYear_succ (year : Int) :
    daysBeforeYear (year + 1) = daysBeforeYear year + daysInYear year := by
  simp only [daysBeforeYear, daysInYear, isLeap, Bool.and_eq_true, Bool.or_eq_true, beq_iff_eq,
    bne_iff_ne]
  split <;> omega

/-- A later year does not begin earlier. -/
lemma daysBeforeYear_mono {a b : Int} (h : a ≤ b) : daysBeforeYear a ≤ daysBeforeYear b := by
  simp only [daysBeforeYear]
  omega

/-- A later month does not begin earlier. -/
lemma daysBeforeMonth_mono (year : Int) : Monotone (daysBeforeMonth year) := by
  apply monotone_nat_of_le_succ
  intro month
  cases month with
  | zero => exact Nat.le_refl 0
  | succ month => exact Nat.le_add_right _ _

/-- Every month has a day. -/
lemma daysInMonth_pos (year : Int) (month : Nat) : 1 ≤ daysInMonth year month := by
  unfold daysInMonth
  split
  · split <;> omega
  · split <;> omega

/-! ## The next day -/

/-- A day lies within its year. -/
lemma Exists.daysBeforeMonth_add_day_le {d : Date} (h : d.Exists) :
    daysBeforeMonth d.year d.month + d.day ≤ daysInYear d.year := by
  rw [← daysBeforeMonth_twelve]
  rcases Nat.lt_or_eq_of_le h.month_le with hlt | heq
  · have hnext : daysBeforeMonth d.year (d.month + 1) ≤ daysBeforeMonth d.year 12 :=
      daysBeforeMonth_mono d.year hlt
    rw [daysBeforeMonth_succ d.year h.month_pos] at hnext
    have hday := h.day_le
    omega
  · have hday := h.day_le
    rw [heq] at hday ⊢
    omega

/-- The calendar has a next day. -/
lemma Exists.next {d : Date} (h : d.Exists) : d.next.Exists := by
  unfold Date.next
  split
  · next hday => exact ⟨h.month_pos, h.month_le, Nat.le_add_left 1 d.day, hday⟩
  · split
    · next hmonth => exact ⟨Nat.le_add_left 1 d.month, hmonth, le_rfl, daysInMonth_pos _ _⟩
    · exact ⟨le_rfl, Nat.le_add_left 1 11, le_rfl, daysInMonth_pos _ _⟩

/-- **The next day has the next number.**

**Proof sketch.** Within a month the day grows by one. The next month begins after the last day of
the month (`daysBeforeMonth_succ`), and the next year after the last day of the twelfth month
(`daysBeforeMonth_twelve`, `daysBeforeYear_succ`). -/
theorem toDays_next {d : Date} (h : d.Exists) : d.next.toDays = d.toDays + 1 := by
  have hday := h.day_le
  unfold Date.next
  split
  · simp only [toDays]
    omega
  · next hlast =>
    split
    · simp only [toDays, daysBeforeMonth_succ d.year h.month_pos]
      omega
    · have hmonth : d.month = 12 := by
        have hle := h.month_le
        omega
      have htwelve := daysBeforeMonth_twelve d.year
      have hfirst : daysBeforeMonth (d.year + 1) 1 = 0 := rfl
      rw [hmonth] at hday hlast
      simp only [toDays, daysBeforeYear_succ, hmonth, hfirst]
      omega

/-- Days that come later by some steps have numbers that are greater by as many. -/
lemma Exists.iterate_next {d : Date} (h : d.Exists) (n : Nat) :
    (Date.next^[n] d).Exists ∧ (Date.next^[n] d).toDays = d.toDays + n := by
  induction n with
  | zero => exact ⟨h, by simp⟩
  | succ n ih =>
    obtain ⟨hexists, hdays⟩ := ih
    rw [Function.iterate_succ_apply', toDays_next hexists, hdays]
    exact ⟨hexists.next, by omega⟩

/-! ## The number of a day -/

/-- A day of an earlier year has a smaller number. -/
lemma toDays_lt_of_year_lt {a b : Date} (ha : a.Exists) (hb : b.Exists) (h : a.year < b.year) :
    a.toDays < b.toDays := by
  have hyear := daysBeforeYear_mono (show a.year + 1 ≤ b.year from h)
  have hwithin := ha.daysBeforeMonth_add_day_le
  have hday := hb.day_pos
  rw [daysBeforeYear_succ] at hyear
  simp only [toDays]
  omega

/-- A day of an earlier month of the same year has a smaller number. -/
lemma toDays_lt_of_month_lt {a b : Date} (ha : a.Exists) (hb : b.Exists) (hyear : a.year = b.year)
    (h : a.month < b.month) : a.toDays < b.toDays := by
  have hmonth := daysBeforeMonth_mono b.year (show a.month + 1 ≤ b.month from h)
  have hlast := ha.day_le
  have hday := hb.day_pos
  rw [hyear] at hlast
  rw [daysBeforeMonth_succ b.year ha.month_pos] at hmonth
  simp only [toDays, hyear]
  omega

/-- **No two days have the same number.** -/
theorem eq_of_toDays_eq {a b : Date} (ha : a.Exists) (hb : b.Exists) (h : a.toDays = b.toDays) :
    a = b := by
  have hyear : a.year = b.year := by
    rcases lt_trichotomy a.year b.year with hlt | heq | hlt
    · have := toDays_lt_of_year_lt ha hb hlt
      omega
    · exact heq
    · have := toDays_lt_of_year_lt hb ha hlt
      omega
  have hmonth : a.month = b.month := by
    rcases lt_trichotomy a.month b.month with hlt | heq | hlt
    · have := toDays_lt_of_month_lt ha hb hyear hlt
      omega
    · exact heq
    · have := toDays_lt_of_month_lt hb ha hyear.symm hlt
      omega
  have hday : a.day = b.day := by
    simp only [toDays, hyear, hmonth] at h
    omega
  obtain ⟨year, month, day⟩ := a
  obtain ⟨year', month', day'⟩ := b
  simp only at hyear hmonth hday
  rw [hyear, hmonth, hday]

/-- The first of January 1970. -/
def epoch : Date := ⟨1970, 1, 1⟩

/-- The calendar has the epoch. -/
lemma exists_epoch : epoch.Exists := exists_of_isValid rfl

/-- **The number of a day, by counting**: that many steps from one day to the next lead from the
epoch to it, or, if the number is negative, as many steps lead from it to the epoch. -/
def IsCounted (d : Date) : Int → Prop
  | .ofNat n => Date.next^[n] epoch = d
  | .negSucc n => Date.next^[n + 1] d = epoch

/-- **Stepping and computing give the same number.**

**Proof sketch.** Each step adds one to the computed number (`toDays_next`), and the day with a
number is unique (`eq_of_toDays_eq`). -/
theorem isCounted_iff {d : Date} (h : d.Exists) (n : Int) : d.IsCounted n ↔ n = d.toDays := by
  cases n with
  | ofNat n =>
    obtain ⟨hexists, hdays⟩ := exists_epoch.iterate_next n
    rw [show epoch.toDays = 0 from toDays_epoch, Int.zero_add] at hdays
    constructor
    · intro hsteps
      rw [← show Date.next^[n] epoch = d from hsteps, hdays]
      rfl
    · intro hnumber
      exact eq_of_toDays_eq hexists h (hdays.trans hnumber)
  | negSucc n =>
    obtain ⟨hexists, hdays⟩ := h.iterate_next (n + 1)
    have hepoch : epoch.toDays = 0 := toDays_epoch
    constructor
    · intro hsteps
      rw [show Date.next^[n + 1] d = epoch from hsteps] at hdays
      omega
    · intro hnumber
      apply eq_of_toDays_eq hexists exists_epoch
      omega

end SeriesClient.Date
