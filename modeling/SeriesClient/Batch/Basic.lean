import SeriesClient.Batch.Cell
import SeriesClient.Column.Coercion

set_option relaxedAutoImplicit false
set_option autoImplicit false

/-!
# Record batches

A batch is a schema with the stored cells of each column. The columns of a schema know
their role, and read their cells.

## Main definitions

* `SeriesClient.Field`, `SeriesClient.Batch` — a batch as it comes from the server.
* `SeriesClient.Column` — a field with its role.
* `SeriesClient.Column.ofField` — the role that the metadata of a field declares.
* `SeriesClient.Column.read` — the values of the cells of a column.

## Design

Timestamps are read as integers, so that no digit is lost. Those of the time column stay
counts of the unit of the column, which scales them when a row is decoded; all others are
scaled to nanoseconds at once. A column that cannot be read as its type is read as plain
integers, and if that fails too, all its cells are absent.
-/

namespace SeriesClient

/-- A column of a schema. -/
structure Field where
  /-- The name. -/
  name : String
  /-- The type of the cells. -/
  type : CellType
  /-- Keys with values. -/
  metadata : List (String × String)
  deriving DecidableEq, Repr

/-- A batch of rows, column by column. -/
structure Batch where
  /-- Which batch it is: two batches are the same only if they have the same number. -/
  number : Nat
  /-- The columns. -/
  schema : List Field
  /-- The stored cells of each column. -/
  cells : List (List Value)

/-- The number of rows; a batch without columns has none. -/
def Batch.rowCount (b : Batch) : Nat :=
  (b.cells.head?.map List.length).getD 0

/-- A column with its role. -/
structure Column where
  /-- The name. -/
  name : String
  /-- The type of the cells. -/
  type : CellType
  /-- The role, if the metadata declares one. -/
  role : Option ColumnType
  deriving DecidableEq, Repr

namespace Column

/-- The key under which the metadata of a field declares its role. -/
def roleKey : String := "iox::column::type"

/-- The column of a field. -/
def ofField (f : Field) : Column :=
  let declared := (f.metadata.find? fun e => e.1 == roleKey).map Prod.snd
  ⟨f.name, f.type, declared.bind ColumnType.ofText?⟩

/-- Whether the cells are the timestamps of the rows: the metadata says so, or there is none
and the name does. -/
def isTime (c : Column) : Bool :=
  c.role == some .timestamp || (c.role.isNone && (c.name == "time" || c.name == "timestamp"))

/-- Whether the cells are the measurements of the rows: the metadata or the name says so. -/
def isMeasurement (c : Column) : Bool :=
  c.role == some .measurement || c.name == "measurement" || c.name == "iox::measurement"

/-- The text that shows a column. -/
def display (c : Column) : String :=
  "<Column " ++ c.name ++ " " ++ c.type.label ++ " "
    ++ ((c.role.map ColumnType.display).getD "None") ++ ">"

/-- A stored count in nanoseconds. -/
def scaled (unit : Precision) : Value → Value
  | .int n => .int (n * unit.scale)
  | v => v

/-- The notice that a column is read as plain integers. -/
def rawNotice (c : Column) : Notice :=
  .warn ("Reading " ++ c.name ++ " as raw integers: <error>")

/-- The notice that a column cannot be read. -/
def unreadableNotice (c : Column) : Notice :=
  .warn ("Value of " ++ c.name ++ " is unreadable: <error>")

/-- The cells of a column that cannot be read as its type. -/
def readRaw (c : Column) (cells : List Value) : List Value × List Notice :=
  if c.type.countsAsIntegers then (cells, [c.rawNotice])
  else (cells.map fun _ => .null, [c.rawNotice, c.unreadableNotice])

/-- The values of the cells of a column. -/
def read (c : Column) (cells : List Value) : Except Fault (List Value) × List Notice :=
  match c.type with
  | .timestamp unit _ =>
    (.ok (if c.isTime then cells else cells.map (scaled unit)), [])
  | type =>
    match cells.mapM type.read with
    | .ok values => (.ok values, [])
    | .error (.overflow fault) => (.error fault, [])
    | .error .unreadable =>
      let (values, notices) := c.readRaw cells
      (.ok values, notices)

end Column

end SeriesClient
