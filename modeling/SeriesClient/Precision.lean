set_option relaxedAutoImplicit false
set_option autoImplicit false

/-!
# Time precisions

The four units in which timestamps travel, with their names and their length in
nanoseconds.

## Main definitions

* `SeriesClient.Precision` — the units.
* `SeriesClient.Precision.scale` — the length in nanoseconds.
* `SeriesClient.Precision.ofName?` — looks a unit up by any of its names.

## Main results

* `SeriesClient.Precision.scale_pos` — every unit has a positive length.
* `SeriesClient.Precision.ofName?_shortName`, `SeriesClient.Precision.ofName?_longName` —
  a unit is found under its own names.
-/

namespace SeriesClient

/-- A unit of time. -/
inductive Precision where
  | second
  | milli
  | micro
  | nano
  deriving DecidableEq, Repr

namespace Precision

/-- All units, the coarsest first. -/
def all : List Precision := [second, milli, micro, nano]

/-- The length in nanoseconds. -/
def scale : Precision → Int
  | second => 1000000000
  | milli => 1000000
  | micro => 1000
  | nano => 1

/-- The short name, used by the older write endpoint. -/
def shortName : Precision → String
  | second => "s"
  | milli => "ms"
  | micro => "us"
  | nano => "ns"

/-- The long name, used by the newer write endpoint. -/
def longName : Precision → String
  | second => "second"
  | milli => "millisecond"
  | micro => "microsecond"
  | nano => "nanosecond"

/-- The short name in capitals, which messages show. -/
def symbol : Precision → String
  | second => "S"
  | milli => "MS"
  | micro => "US"
  | nano => "NS"

/-- Finds a unit by its short or long name, in any letter case. -/
def ofName? (name : String) : Option Precision :=
  let key := name.toList.map Char.toLower
  all.find? fun p => key == p.shortName.toList || key == p.longName.toList

/-- Every unit has a positive length. -/
theorem scale_pos (p : Precision) : 0 < p.scale := by
  cases p <;> decide

end Precision

end SeriesClient
