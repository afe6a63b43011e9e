import SeriesClient.Calendar.Ticks
import SeriesClient.Number.Literal
import SeriesClient.Precision

set_option relaxedAutoImplicit false
set_option autoImplicit false

/-!
# Values

The values that an application hands to the client and gets back: tags and fields of
points, settings, query parameters and decoded cells.

## Main definitions

* `SeriesClient.Sized` — numbers of a fixed width.
* `SeriesClient.Value` — all values.
* `SeriesClient.Value.typeName`, `SeriesClient.Value.qualifiedName` — the name of a
  value's type, for messages.
* `SeriesClient.Value.number?` — the exact number a value stands for.
* `SeriesClient.Value.truthy` — whether a value counts as true.

## Design

Numbers of a fixed width are apart from the plain integers and doubles, because a point
keeps the width it was given. Text that comes interned from a column is apart from plain
text for the same reason. A value that the library only passes on is `foreign`.
-/

namespace SeriesClient

/-- The width of a floating-point number. -/
inductive Width where
  | half | single | double
  deriving DecidableEq, Repr

/-- The format of a width. -/
def Width.format : Width → Format
  | half => .half
  | single => .single
  | double => .double

/-- The number of bits of a width. -/
def Width.bits : Width → Nat
  | half => 16
  | single => 32
  | double => 64

/-- A number of a fixed width. -/
inductive Sized where
  /-- An integer. -/
  | integer (signed : Bool) (bits : Nat) (n : Int)
  /-- A floating-point number. -/
  | floating (width : Width) (x : Floating)
  /-- A truth value. -/
  | bool (b : Bool)
  deriving DecidableEq, Repr

/-- A value of the application. -/
inductive Value where
  /-- Nothing. -/
  | null
  /-- A truth value. -/
  | bool (b : Bool)
  /-- An integer of any size. -/
  | int (n : Int)
  /-- A double. -/
  | float (x : Floating)
  /-- A text. -/
  | text (s : String)
  /-- A byte string. -/
  | bytes (bs : List UInt8)
  /-- A decimal. -/
  | decimal (d : DecimalNumber)
  /-- A number of a fixed width. -/
  | sized (n : Sized)
  /-- A date with a clock reading. -/
  | datetime (t : DateTime)
  /-- A date. -/
  | date (d : Date)
  /-- A clock reading. -/
  | time (t : TimeOfDay)
  /-- A duration in microseconds. -/
  | duration (micros : Int)
  /-- A count of ticks since 1970. -/
  | ticks (t : Ticks)
  /-- A text from a column, which may be missing. -/
  | interned (large : Bool) (s : Option String)
  /-- A list. -/
  | list (xs : List Value)
  /-- A tuple. -/
  | tuple (xs : List Value)
  /-- Keys with values, in order. -/
  | dict (entries : List (Value × Value))
  /-- A time precision. -/
  | precision (p : Precision)
  /-- Anything else: the name of its type and the text that shows it. -/
  | foreign (typeName : String) (shown : String)
  deriving Inhabited, Repr

namespace Sized

/-- The name of the type of a number. -/
def typeName : Sized → String
  | integer signed bits _ => (if signed then "int" else "uint") ++ toString bits
  | floating width _ => "float" ++ toString width.bits
  | bool _ => "bool"

/-- The number of a type that is given by its name: a truth value, a floating-point number
that is rounded to its width, or else an integer. -/
def ofName (typeName : String) (b : Bool) (x : Floating) (n : Int) : Sized :=
  match typeName with
  | "bool" => .bool b
  | "float16" => .floating .half (Format.half.convert x)
  | "float32" => .floating .single (Format.single.convert x)
  | "float64" => .floating .double x
  | "int8" => .integer true 8 n
  | "int16" => .integer true 16 n
  | "int32" => .integer true 32 n
  | "uint8" => .integer false 8 n
  | "uint16" => .integer false 16 n
  | "uint32" => .integer false 32 n
  | "uint64" => .integer false 64 n
  | _ => .integer true 64 n

/-- The exact number. -/
def toExtended : Sized → Extended
  | integer _ _ n => .rational n
  | floating _ x => x.toExtended
  | bool b => .rational (if b then 1 else 0)

end Sized

namespace Value

/-- The name of the type of a value. -/
def typeName : Value → String
  | null => "NoneType"
  | bool _ => "bool"
  | int _ => "int"
  | float _ => "float"
  | text _ => "str"
  | bytes _ => "bytes"
  | decimal _ => "Decimal"
  | sized n => n.typeName
  | datetime _ => "datetime"
  | date _ => "date"
  | time _ => "time"
  | duration _ => "timedelta"
  | ticks _ => "datetime64"
  | interned large _ => if large then "LargeStringScalar" else "StringScalar"
  | list _ => "list"
  | tuple _ => "tuple"
  | dict _ => "dict"
  | precision _ => "WritePrecision"
  | foreign typeName _ => typeName

/-- The name of the type of a value together with the package that the type belongs to. -/
def qualifiedName : Value → String
  | decimal _ => "decimal.Decimal"
  | sized n => "numpy." ++ n.typeName
  | datetime _ => "datetime.datetime"
  | date _ => "datetime.date"
  | time _ => "datetime.time"
  | duration _ => "datetime.timedelta"
  | ticks _ => "numpy.datetime64"
  | interned large _ =>
    if large then "pyarrow.lib.LargeStringScalar" else "pyarrow.lib.StringScalar"
  | v => v.typeName

/-- Whether the value is absent. -/
def isNull : Value → Bool
  | null => true
  | _ => false

/-- Whether the value is plain text. -/
def isText : Value → Bool
  | text _ => true
  | _ => false

/-- The exact number that a value stands for. -/
def number? : Value → Option Extended
  | bool b => some (.rational (if b then 1 else 0))
  | int n => some (.rational n)
  | float x => some x.toExtended
  | decimal d => some d.toExtended
  | sized n => some n.toExtended
  | _ => none

/-- Whether a value counts as true: numbers other than zero, texts and containers that are
not empty, and everything else that is not absent. -/
def truthy : Value → Bool
  | null => false
  | bool b => b
  | int n => n != 0
  | float x => !x.isZero
  | text s => !s.isEmpty
  | bytes bs => !bs.isEmpty
  | decimal (.finite _ c _) => c != 0
  | sized (.integer _ _ n) => n != 0
  | sized (.floating _ x) => !x.isZero
  | sized (.bool b) => b
  | duration micros => micros != 0
  | ticks t => t.count != some 0
  | list xs => !xs.isEmpty
  | tuple xs => !xs.isEmpty
  | dict entries => !entries.isEmpty
  | _ => true

/-- An optional text as a value. -/
def ofText? : Option String → Value
  | some s => text s
  | none => null

/-- An optional integer as a value. -/
def ofInt? : Option Int → Value
  | some n => int n
  | none => null

end Value

end SeriesClient
