import SeriesClient.Column.Role
import SeriesClient.Notice
import SeriesClient.Timestamp

set_option relaxedAutoImplicit false
set_option autoImplicit false

/-!
# Narrowing cells to their column type

A cell is narrowed to the one type that values of its column have. A cell that does not
fit is passed on as it is, with a warning.

## Main definitions

* `SeriesClient.Value.isInteger`, `SeriesClient.Value.isNumber`,
  `SeriesClient.Value.isBoolean`, `SeriesClient.Value.isInterned` — the classes of values.
* `SeriesClient.Coercion.coerce` — narrows a cell.

## Design

Truth values are neither integers nor numbers here, although they could be counted with.
-/

namespace SeriesClient

namespace Value

/-- Whether a value is a text that came interned from a column. -/
def isInterned : Value → Bool
  | interned .. => true
  | _ => false

/-- Whether a value is an integer of any width. -/
def isInteger : Value → Bool
  | int _ | sized (.integer ..) => true
  | _ => false

/-- Whether a value is a number of any kind. -/
def isNumber : Value → Bool
  | int _ | float _ | decimal _ | sized (.integer ..) | sized (.floating ..) => true
  | _ => false

/-- Whether a value is a truth value of any width. -/
def isBoolean : Value → Bool
  | bool _ | sized (.bool _) => true
  | _ => false

/-- The plain text of a text or interned text; nothing for an interned text that is
missing. -/
def unwrapText : Value → Value
  | interned _ s => ofText? s
  | v => text v.toText

end Value

namespace Coercion

/-- What narrowing a cell comes to: the cell or a fault, and the notices left behind. -/
abbrev Outcome := Except Fault Value × List Notice

/-- A cell that is passed on with a warning. -/
def mismatch (name : String) (v : Value) (expected : String) : Outcome :=
  (.ok v, [.warn ("Value of " ++ name ++ " is not " ++ expected ++ ": " ++ v.display)])

/-- A cell of an integer column. -/
def toIntegerField (name : String) (v : Value) : Outcome :=
  match if v.isNumber then v.wholePart? else none with
  | some (.ok n) => (.ok (.int n), [])
  | _ => mismatch name v "an integer"

/-- A cell of a floating-point column. -/
def toFloatField (name : String) (v : Value) : Outcome :=
  match if v.isNumber then v.nearestDouble? else none with
  | some result => (result.map .float, [])
  | none => mismatch name v "a float"

/-- A cell of a text column. -/
def toTextCell (name : String) (v : Value) : Outcome :=
  if v.isText || v.isInterned then (.ok v.unwrapText, []) else mismatch name v "a string"

/-- A cell of a column of truth values. -/
def toBooleanField (name : String) (v : Value) : Outcome :=
  if v.isBoolean then (.ok (.bool v.truthy), []) else mismatch name v "a boolean"

/-- A cell of the time column. -/
def toTimestamp (name : String) (v : Value) (unit : Option Precision) : Outcome :=
  match Timestamp.ofCell? v unit with
  | some nanos => (.ok (.int nanos), [])
  | none => mismatch name v "a timestamp"

/-- Narrows a cell of the column `name`. Absent cells, and cells of a column without a
known type, are passed on. -/
def coerce (type : Option ColumnType) (name : String) (v : Value) (unit : Option Precision) :
    Outcome :=
  if v.isNull then (.ok v, [])
  else
    match type with
    | none | some (.field none) => (.ok v, [])
    | some (.field (some .integer)) | some (.field (some .uinteger)) => toIntegerField name v
    | some (.field (some .float)) => toFloatField name v
    | some (.field (some .string)) | some .tag | some .measurement => toTextCell name v
    | some (.field (some .boolean)) => toBooleanField name v
    | some .timestamp => toTimestamp name v unit

end Coercion

end SeriesClient
