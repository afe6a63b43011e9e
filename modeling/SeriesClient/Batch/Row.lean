import SeriesClient.Batch.Basic
import SeriesClient.Point.Basic

set_option relaxedAutoImplicit false
set_option autoImplicit false

/-!
# Decoding rows

One row of a batch in three shapes: a list of values, a dictionary by column name, and a
row of a time series with each column in the place that its role calls for.

## Main definitions

* `SeriesClient.Row.cell` — the value of one cell under the role of its column.
* `SeriesClient.Row.toList`, `SeriesClient.Row.toDict`, `SeriesClient.Row.toPointValues` —
  the three shapes.

## Main results

* `SeriesClient.Row.cell_null` — an absent cell stays absent.

## Design

A row is given as its columns, each paired with the value read from its cell. Columns are
decoded in order and the first fault ends the row; the notices of the columns before it
remain.
-/

namespace SeriesClient.Row

/-- A step of decoding: a result or a fault, and the notices left behind. -/
abbrev Logged (α : Type) := Except Fault α × List Notice

/-- Decodes the parts of a row in order, up to the first fault. -/
def collect {α β γ : Type} (step : α → β → Logged α) (finish : α → γ) : α → List β → Logged γ
  | acc, [] => (.ok (finish acc), [])
  | acc, b :: rest =>
    match step acc b with
    | (.error fault, notices) => (.error fault, notices)
    | (.ok acc', notices) =>
      let (result, more) := collect step finish acc' rest
      (result, notices ++ more)

/-- The value of a cell in a row or dictionary: narrowed to the type of its column, or taken
for a timestamp if the column is untyped and named for the time. -/
def cell (c : Column) (v : Value) : Logged Value :=
  if v.isNull then (.ok .null, [])
  else
    match c.role with
    | none =>
      match if c.isTime then Timestamp.ofCell? v c.type.unit? else none with
      | some nanos => (.ok (.int nanos), [])
      | none => (.ok v, [])
    | some role => Coercion.coerce (some role) c.name v c.type.unit?

/-- A row as a list of values, in the order of the columns. -/
def toList (cells : List (Column × Value)) : Logged Value :=
  collect (fun (acc : List Value) e =>
    let (result, notices) := cell e.1 e.2
    (result.map (· :: acc), notices)) (fun acc => .list acc.reverse) [] cells

/-- A row as a dictionary; of columns with one name the last counts. -/
def toDict (cells : List (Column × Value)) : Logged Value :=
  collect (fun (acc : OrderedMap Value Value) e =>
    let (result, notices) := cell e.1 e.2
    (result.map fun v => acc.insert (.text e.1.name) v, notices))
    (fun acc => .dict acc.entries) .empty cells

/-- Stores a cell of a column without a known type. -/
def putUntyped (pv : PointValues) (c : Column) (v : Value) : Logged PointValues :=
  match if c.isTime then Timestamp.ofCell? v c.type.unit? else none with
  | some nanos => (.ok { pv with timestamp := some nanos }, [])
  | none => (pv.setField (.text c.name) v, [])

/-- Stores a cell by the role of its column. -/
def putTyped (pv : PointValues) (c : Column) (role : ColumnType) (v : Value) :
    Logged PointValues :=
  let (result, notices) := Coercion.coerce (some role) c.name v c.type.unit?
  match result with
  | .error fault => (.error fault, notices)
  | .ok narrowed =>
    match role with
    | .field _ => (pv.setField (.text c.name) narrowed, notices)
    | .tag => (if narrowed.isText then pv.setTag (.text c.name) narrowed else .ok pv, notices)
    | .timestamp =>
      match narrowed with
      | .int nanos => (.ok { pv with timestamp := some nanos }, notices)
      | .sized (.integer _ _ nanos) => (.ok { pv with timestamp := some nanos }, notices)
      | _ => (.ok pv, notices)
    | .measurement => (.ok pv, notices)

/-- Stores a cell by its column. Text in a measurement column becomes the measurement, and
other values in a column that is declared as one are dropped with a warning; a column that
only has the name of one is treated like any other if its cell is no text. -/
def put (pv : PointValues) (c : Column) (v : Value) : Logged PointValues :=
  if v.isNull then (.ok pv, [])
  else if c.isMeasurement && (v.isText || v.isInterned) then
    (pv.setMeasurement v.unwrapText, [])
  else if c.role == some .measurement then
    (.ok pv, [.warn ("Value of " ++ c.name ++ " is not a string: " ++ v.display)])
  else
    match c.role with
    | none => putUntyped pv c v
    | some role => putTyped pv c role v

/-- A row as a row of a time series. -/
def toPointValues (cells : List (Column × Value)) : Logged PointValues :=
  collect (fun pv e => put pv e.1 e.2) id (PointValues.new .null) cells

/-- An absent cell stays absent, without a notice. -/
theorem cell_null (c : Column) : cell c .null = (.ok .null, []) := rfl

end SeriesClient.Row
