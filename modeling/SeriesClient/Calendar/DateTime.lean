import SeriesClient.Calendar.Date
import SeriesClient.Number.FloatText

set_option relaxedAutoImplicit false
set_option autoImplicit false

/-!
# Times of day, date-times and durations

Clock readings with microseconds, dates with a clock reading and an optional offset from
universal time, and durations in microseconds.

## Main definitions

* `SeriesClient.TimeOfDay`, `SeriesClient.Offset`, `SeriesClient.DateTime` — the types.
* `SeriesClient.DateTime.toMicros` — microseconds since 1970-01-01T00:00 universal time.
* `SeriesClient.DateTime.toNanos` — the same instant in nanoseconds.
* `SeriesClient.Duration` — splitting a duration into days, seconds and microseconds.

## Main results

* `SeriesClient.DateTime.toNanos_eq` — an instant is a whole number of microseconds.

## Design

A date-time without an offset is taken to be in universal time. Offsets are mostly whole minutes,
but may be any number of microseconds; a number of seconds is taken for an offset.
-/

namespace SeriesClient

/-- A clock reading. -/
structure TimeOfDay where
  /-- Hour, from 0 to 23. -/
  hour : Nat
  /-- Minute, from 0 to 59. -/
  minute : Nat
  /-- Second, from 0 to 59. -/
  second : Nat
  /-- Microsecond, from 0 to 999999. -/
  micro : Nat
  deriving DecidableEq, Repr

namespace TimeOfDay

/-- Microseconds since midnight. -/
def toMicros (t : TimeOfDay) : Nat :=
  ((t.hour * 60 + t.minute) * 60 + t.second) * 1000000 + t.micro

/-- The reading a number of microseconds after midnight. -/
def ofMicros (n : Nat) : TimeOfDay :=
  let seconds := n / 1000000
  ⟨seconds / 3600 % 24, seconds / 60 % 60, seconds % 60, n % 1000000⟩

end TimeOfDay

/-- An offset from universal time. -/
structure Offset where
  /-- Microseconds east of universal time. -/
  micros : Int
  deriving DecidableEq, Repr

namespace Offset

/-- The offset of a number of seconds. -/
def ofSeconds (seconds : Int) : Offset := ⟨seconds * 1000000⟩

/-- The whole seconds of an offset. -/
def seconds (offset : Offset) : Int := offset.micros / 1000000

instance : Coe Int Offset := ⟨ofSeconds⟩

instance : CoeOut Offset Int := ⟨seconds⟩

/-- The offset of a number of seconds has that many. -/
theorem seconds_ofSeconds (n : Int) : (ofSeconds n).seconds = n := by
  simp [ofSeconds, seconds]

end Offset

/-- A date with a clock reading and, if it is known, the offset from universal time. -/
structure DateTime where
  /-- The date. -/
  date : Date
  /-- The clock reading. -/
  time : TimeOfDay
  /-- The offset from universal time. -/
  offset : Option Offset
  deriving DecidableEq, Repr

namespace DateTime

/-- The microseconds in a day. -/
def microsPerDay : Int := 86400000000

/-- Microseconds from 1970-01-01T00:00 to the date and reading, in the same zone. -/
def localMicros (t : DateTime) : Int :=
  t.date.toDays * microsPerDay + t.time.toMicros

/-- Microseconds since 1970-01-01T00:00 universal time. -/
def toMicros (t : DateTime) : Int :=
  t.localMicros - (t.offset.map Offset.micros).getD 0

/-- Nanoseconds since 1970-01-01T00:00 universal time. -/
def toNanos (t : DateTime) : Int :=
  t.toMicros * 1000

/-- An instant is a whole number of microseconds. -/
theorem toNanos_eq (t : DateTime) : t.toNanos = 1000 * t.toMicros := by
  unfold toNanos
  omega

/-- The date-time that shows the given instant in the zone with the given offset. -/
def ofMicros (micros : Int) (offset : Option Offset) : DateTime :=
  let shown := micros + (offset.map Offset.micros).getD 0
  ⟨Date.ofDays (shown / microsPerDay), TimeOfDay.ofMicros (shown % microsPerDay).toNat, offset⟩

/-- Seconds since 1970-01-01T00:00 universal time, as the nearest double. -/
def toSeconds (t : DateTime) : Floating :=
  Format.double.round (mkRat t.toMicros 1000000)

end DateTime

namespace Duration

/-- The whole days of a duration in microseconds. -/
def days (micros : Int) : Int := micros / DateTime.microsPerDay

/-- The seconds of a duration beyond its whole days. -/
def seconds (micros : Int) : Int := micros % DateTime.microsPerDay / 1000000

/-- The microseconds of a duration beyond its whole seconds. -/
def micros (micros : Int) : Int := micros % 1000000

end Duration

end SeriesClient
