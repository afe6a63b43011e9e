import SeriesClient.Calendar.DateTime

set_option relaxedAutoImplicit false
set_option autoImplicit false

/-!
# Tick counts

Instants given as a whole number of ticks since 1970, from years down to attoseconds, or
as no instant at all.

## Main definitions

* `SeriesClient.TickUnit` — the length of a tick.
* `SeriesClient.TickUnit.ofSymbol?` — looks a unit up by its symbol.
* `SeriesClient.Ticks` — a count of ticks, or no instant.
* `SeriesClient.Ticks.toNanos` — nanoseconds since 1970, rounded down.
* `SeriesClient.Ticks.text` — the instant with the digits that its unit calls for.

## Main results

* `SeriesClient.TickUnit.ofSymbol?_symbol` — a unit is found by its own symbol.
* `SeriesClient.Ticks.toNanos_of_fits` — nanoseconds that fit do not wrap around.

## Design

Years and months are counted on the calendar; all other units have a fixed length. Counts
have 64 bits, also those of nanoseconds, which wrap around where that does not suffice. A
count that denotes no instant becomes the least number of 64 bits.
-/

namespace SeriesClient

/-- The length of a tick. -/
inductive TickUnit where
  | year | month | week | day | hour | minute | second
  | milli | micro | nano | pico | femto | atto
  deriving DecidableEq, Repr

namespace TickUnit

/-- All units, the coarsest first. -/
def all : List TickUnit :=
  [year, month, week, day, hour, minute, second, milli, micro, nano, pico, femto, atto]

/-- The symbol of a unit. -/
def symbol : TickUnit → String
  | year => "Y"
  | month => "M"
  | week => "W"
  | day => "D"
  | hour => "h"
  | minute => "m"
  | second => "s"
  | milli => "ms"
  | micro => "us"
  | nano => "ns"
  | pico => "ps"
  | femto => "fs"
  | atto => "as"

/-- Finds a unit by its symbol. -/
def ofSymbol? (symbol : String) : Option TickUnit := all.find? fun u => u.symbol == symbol

/-- A unit is found by its own symbol. -/
theorem ofSymbol?_symbol (u : TickUnit) : ofSymbol? u.symbol = some u := by
  cases u <;> decide

end TickUnit

/-- A count of ticks since 1970; `none` denotes no instant. -/
structure Ticks where
  /-- The count. -/
  count : Option Int
  /-- The unit. -/
  unit : TickUnit
  deriving DecidableEq, Repr

namespace TickUnit

/-- How a unit relates to the nanosecond. -/
inductive Size where
  /-- A whole number of nanoseconds. -/
  | nanos (count : Int)
  /-- This many of the unit make one nanosecond. -/
  | perNano (count : Int)
  /-- A number of calendar months. -/
  | months (count : Int)

/-- The size of a unit. -/
def size : TickUnit → Size
  | year => .months 12
  | month => .months 1
  | week => .nanos 604800000000000
  | day => .nanos 86400000000000
  | hour => .nanos 3600000000000
  | minute => .nanos 60000000000
  | second => .nanos 1000000000
  | milli => .nanos 1000000
  | micro => .nanos 1000
  | nano => .nanos 1
  | pico => .perNano 1000
  | femto => .perNano 1000000
  | atto => .perNano 1000000000

end TickUnit

/-- The first day of the month that lies `months` months after January 1970. -/
def Date.ofMonths (months : Int) : Date :=
  ⟨1970 + months / 12, (months % 12).toNat + 1, 1⟩

namespace Ticks

/-- The number that stands for no instant. -/
def missing : Int := -9223372036854775808

/-- Exact nanoseconds since 1970 of a count of ticks, rounded down. -/
def nanosOf (count : Int) (unit : TickUnit) : Int :=
  match unit.size with
  | .nanos n => count * n
  | .perNano n => count / n
  | .months n => (Date.ofMonths (count * n)).toDays * 86400000000000

/-- Nanoseconds since 1970, rounded down, as a number of 64 bits. -/
def toNanos (t : Ticks) : Int :=
  match t.count with
  | some count => (nanosOf count t.unit).bmod (2 ^ 64)
  | none => missing

/-- Nanoseconds that fit into 64 bits do not wrap around. -/
theorem toNanos_of_fits {count : Int} {unit : TickUnit} (hlower : -2 ^ 63 ≤ nanosOf count unit)
    (hupper : nanosOf count unit < 2 ^ 63) :
    (⟨some count, unit⟩ : Ticks).toNanos = nanosOf count unit :=
  Int.bmod_eq_of_le hlower hupper

/-- What a count is taken for where a number is needed: ticks shorter than a microsecond are
plain counts, longer ones are the date or date-time of the given type, and no instant is an
absent value. -/
inductive Item where
  | count (n : Int)
  | calendar (typeName : String)
  | absent

/-- What a count is taken for where a number is needed. -/
def item (t : Ticks) : Item :=
  match t.count, t.unit with
  | none, _ => .absent
  | some n, .nano | some n, .pico | some n, .femto | some n, .atto => .count n
  | some _, .year | some _, .month | some _, .week | some _, .day => .calendar "datetime.date"
  | some _, _ => .calendar "datetime.datetime"

/-- The name of the type of an item. -/
def Item.typeName : Item → String
  | count _ => "int"
  | calendar name => name
  | absent => "NoneType"

/-- A year, filled up with zeros to four characters, its sign included. -/
def yearText (year : Int) : List Char :=
  if year < 0 then '-' :: paddedDigits 3 year.natAbs else paddedDigits 4 year.natAbs

/-- A date; how many of its three parts are written depends on the unit. -/
def dateText (parts : Nat) (d : Date) : List Char :=
  yearText d.year ++ (if parts < 2 then [] else '-' :: paddedDigits 2 d.month)
    ++ (if parts < 3 then [] else '-' :: paddedDigits 2 d.day)

/-- The clock reading `count` ticks after midnight, where a second has `10 ^ places`
ticks. -/
def clockText (places count : Nat) : List Char :=
  let seconds := count / 10 ^ places
  'T' :: paddedDigits 2 (seconds / 3600) ++ ':' :: paddedDigits 2 (seconds / 60 % 60)
    ++ ':' :: paddedDigits 2 (seconds % 60)
    ++ (if places = 0 then [] else '.' :: paddedDigits places (count % 10 ^ places))

/-- A count of ticks of which a second has `10 ^ places`. -/
def fineText (places : Nat) (count : Int) : List Char :=
  let perDay : Int := 86400 * 10 ^ places
  dateText 3 (Date.ofDays (count / perDay)) ++ clockText places (count % perDay).toNat

/-- The instant with the digits that its unit calls for. -/
def text (t : Ticks) : List Char :=
  match t.count with
  | none => "NaT".toList
  | some count =>
    match t.unit with
    | .year => dateText 1 (Date.ofMonths (count * 12))
    | .month => dateText 2 (Date.ofMonths count)
    | .week => dateText 3 (Date.ofDays (count * 7))
    | .day => dateText 3 (Date.ofDays count)
    | .hour =>
      dateText 3 (Date.ofDays (count / 24)) ++ 'T' :: paddedDigits 2 (count % 24).toNat
    | .minute =>
      dateText 3 (Date.ofDays (count / 1440)) ++ 'T' :: paddedDigits 2 (count % 1440 / 60).toNat
        ++ ':' :: paddedDigits 2 (count % 60).toNat
    | .second => fineText 0 count
    | .milli => fineText 3 count
    | .micro => fineText 6 count
    | .nano => fineText 9 count
    | .pico => fineText 12 count
    | .femto => fineText 15 count
    | .atto => fineText 18 count

end Ticks

end SeriesClient
