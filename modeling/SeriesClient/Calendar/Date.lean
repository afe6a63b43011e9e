set_option relaxedAutoImplicit false
set_option autoImplicit false

/-!
# Calendar dates

Dates of the proleptic Gregorian calendar and their number of days since 1970-01-01.

## Main definitions

* `SeriesClient.Date` — year, month and day.
* `SeriesClient.Date.toDays` — days since the epoch.
* `SeriesClient.Date.ofDays` — the date a number of days after the epoch.
* `SeriesClient.Date.next` — the following day, by the rules of the calendar alone.

## Main results

* `SeriesClient.Date.toDays_epoch` — the epoch is day zero.

## Design

Years are integers so that counts far before the year one still have a date; the year
zero precedes the year one.
-/

namespace SeriesClient

/-- A date of the proleptic Gregorian calendar. -/
structure Date where
  /-- Year; the year before 1 is 0. -/
  year : Int
  /-- Month, from 1 to 12. -/
  month : Nat
  /-- Day of the month, from 1. -/
  day : Nat
  deriving DecidableEq, Repr

namespace Date

/-- Every fourth year is a leap year, except the centuries that 400 does not divide. -/
def isLeap (year : Int) : Bool :=
  year % 4 == 0 && (year % 100 != 0 || year % 400 == 0)

/-- The number of days of a month. -/
def daysInMonth (year : Int) (month : Nat) : Nat :=
  if month = 2 then (if isLeap year then 29 else 28)
  else if month = 4 ∨ month = 6 ∨ month = 9 ∨ month = 11 then 30
  else 31

/-- The days of the months of a year before the given one. -/
def daysBeforeMonth (year : Int) : Nat → Nat
  | 0 => 0
  | 1 => 0
  | month + 1 => daysBeforeMonth year month + daysInMonth year month

/-- The days from the first day of year 1 to the first day of a year. -/
def daysBeforeYear (year : Int) : Int :=
  let y := year - 1
  y * 365 + y / 4 - y / 100 + y / 400

/-- The number of days from the first day of year 1 to 1970-01-01. -/
def epochDays : Int := 719162

/-- Days since 1970-01-01. -/
def toDays (d : Date) : Int :=
  daysBeforeYear d.year + daysBeforeMonth d.year d.month + d.day - 1 - epochDays

/-- The month and day that lie `day` days after the first day of `month`. -/
def monthAndDay (year : Int) : Nat → Nat → Nat → Nat × Nat
  | 0, month, day => (month, day + 1)
  | fuel + 1, month, day =>
    let length := daysInMonth year month
    if day < length then (month, day + 1)
    else monthAndDay year fuel (month + 1) (day - length)

/-- The date that lies `days` days after 1970-01-01. -/
def ofDays (days : Int) : Date :=
  let n := days + epochDays
  let inEra := n % 146097
  let century := min (inEra / 36524) 3
  let inCentury := inEra - century * 36524
  let inCycle := inCentury % 1461
  let yearInCycle := min (inCycle / 365) 3
  let year := n / 146097 * 400 + century * 100 + inCentury / 1461 * 4 + yearInCycle + 1
  let (month, day) := monthAndDay year 11 1 (inCycle - yearInCycle * 365).toNat
  ⟨year, month, day⟩

/-- The following day. -/
def next (d : Date) : Date :=
  if d.day < daysInMonth d.year d.month then { d with day := d.day + 1 }
  else if d.month < 12 then { d with month := d.month + 1, day := 1 }
  else ⟨d.year + 1, 1, 1⟩

/-- The epoch is day zero. -/
theorem toDays_epoch : toDays ⟨1970, 1, 1⟩ = 0 := by decide

/-- Whether the year has at most four digits and is not before the year one, and the month
and day exist. -/
def isValid (d : Date) : Bool :=
  decide (1 ≤ d.year) && decide (d.year ≤ 9999) && decide (1 ≤ d.month) && decide (d.month ≤ 12)
    && decide (1 ≤ d.day) && decide (d.day ≤ daysInMonth d.year d.month)

end Date

end SeriesClient
