import SeriesClient.Value.Convert

set_option relaxedAutoImplicit false
set_option autoImplicit false

/-!
# Timestamps

Instants as nanoseconds since 1970 universal time: conversion from what an application or
a column may hold, and conversion to a coarser unit.

## Main definitions

* `SeriesClient.Precision.ofValue` — the precision that a setting names.
* `SeriesClient.Timestamp.toNanos` — scales a count in a given unit.
* `SeriesClient.Timestamp.fromNanos` — truncates to a given unit.
* `SeriesClient.Timestamp.ofApplication` — any timestamp an application may set.
* `SeriesClient.Timestamp.ofCell?` — a timestamp read from a column.

## Main results

* `SeriesClient.Timestamp.ofCell?_int` — a whole number in a column is scaled once.

## Design

What is lost of a number in a conversion is cut off towards zero; only counts of ticks are rounded
down. An absent timestamp stays absent through every conversion. The value is converted before its
precision is looked up, so of two faults the value's is reported.
-/

namespace SeriesClient

/-- The precision that a setting names: a precision itself, or one of its names. -/
def Precision.ofValue (v : Value) : Except Fault Precision :=
  match v with
  | .precision p => .ok p
  | v =>
    match Precision.ofName? v.toText with
    | some p => .ok p
    | none => .error (.invalid (.precision v.display))

namespace Timestamp

/-- The count that a value stands for, in a unit still to be named. -/
def count (v : Value) : Except Fault Int :=
  match v with
  | .bool _ => .error (.mistyped .booleanTimestamp)
  | .int n => .ok n
  | .sized (.integer _ _ n) => .ok n
  | .float x => x.toInt
  | .decimal d => d.toInt
  | .sized (.floating _ x) => x.toInt
  | v => .error (.mistyped (.timestamp v.display))

/-- Nanoseconds of a count in the given unit; fractions of the unit are cut off before
scaling. -/
def toNanos (v unit : Value) : Except Fault (Option Int) :=
  match v with
  | .null => .ok none
  | v => do
    let n ← count v
    let p ← Precision.ofValue unit
    return some (n * p.scale)

/-- Nanoseconds in the given unit, cut off towards zero. -/
def truncateTo (p : Precision) (nanos : Int) : Int :=
  truncDiv nanos p.scale

/-- A number of nanoseconds in the given unit. -/
def fromNanos (nanos unit : Value) : Except Fault (Option Int) :=
  match nanos with
  | .null => .ok none
  | v => do
    let n ← v.toInt
    let p ← Precision.ofValue unit
    return some (truncateTo p n)

/-- Nanoseconds of any timestamp that an application may set. -/
def ofApplication (v unit : Value) : Except Fault (Option Int) :=
  match v with
  | .datetime t => .ok (some t.toNanos)
  | .ticks t => .ok (some t.toNanos)
  | v => toNanos v unit

/-- The unit of a whole number in a column that declares none. -/
def defaultCellUnit : Precision := .milli

/-- Nanoseconds of a timestamp cell. Whole numbers are in the unit of the column; anything
that is neither a whole number nor a date-time is no timestamp. -/
def ofCell? (v : Value) (unit : Option Precision) : Option Int :=
  match v with
  | .int n => some (n * (unit.getD defaultCellUnit).scale)
  | .sized (.integer _ _ n) => some (n * (unit.getD defaultCellUnit).scale)
  | .datetime t => some t.toNanos
  | .ticks t => some t.toNanos
  | _ => none

/-- A whole number in a column is scaled once, by the unit of the column. -/
theorem ofCell?_int (n : Int) (p : Precision) : ofCell? (.int n) (some p) = some (n * p.scale) :=
  rfl

/-- Nanoseconds of a date-time, and a complaint about anything else. -/
def ofDateTime (v : Value) : Except Fault Int :=
  match v with
  | .datetime t => .ok t.toNanos
  | v => .error (.mistyped (.noMember v.qualifiedName "tzinfo"))

/-- Nanoseconds of a count of ticks, and a complaint about anything else. -/
def ofTicks (v : Value) : Except Fault Int :=
  match v with
  | .ticks t => .ok t.toNanos
  | v => .error (.mistyped (.noMember v.qualifiedName "astype"))

end Timestamp

/-- A number of whichever kind as an integer or a double. -/
inductive Operand where
  | whole (n : Int)
  | double (x : Floating)

/-- The number that a value stands for in a division. -/
def Value.operand? : Value → Option Operand
  | .bool b => some (.whole (if b then 1 else 0))
  | .int n => some (.whole n)
  | .sized (.integer _ _ n) => some (.whole n)
  | .float x => some (.double x)
  | .sized (.floating _ x) => some (.double x)
  | _ => none

namespace Operand

/-- The number as a double. -/
def toDouble : Operand → Except Fault Floating
  | whole n => integerToDouble n
  | double x => .ok x

/-- The quotient of two numbers, rounded towards zero by dividing the magnitude of the
first. -/
def truncQuotient : Operand → Operand → Except Fault Value
  | whole n, whole d => if d = 0 then .error .divisionByZero else .ok (.int (truncDiv n d))
  | a, b => do
    let x ← a.toDouble
    let y ← b.toDouble
    let magnitude := if x.isNegative then x.neg else x
    match Format.double.floorQuotient magnitude y with
    | none => .error .floatingDivisionByZero
    | some q => return .float (if x.isNegative && !x.isZero then q.neg else q)

end Operand

/-- The quotient of two values, rounded towards zero. -/
def Value.truncQuotient (n d : Value) : Except Fault Value :=
  match n.operand?, d.operand? with
  | some a, some b => a.truncQuotient b
  | none, _ => .error (.mistyped (.magnitude n.qualifiedName))
  | some _, none => .error (.mistyped (.quotient n.qualifiedName d.qualifiedName))

end SeriesClient
