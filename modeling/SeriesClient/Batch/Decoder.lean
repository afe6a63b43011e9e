import SeriesClient.Batch.Row

set_option relaxedAutoImplicit false
set_option autoImplicit false

/-!
# Decoding batches

A decoder turns rows of batches into one of three shapes. It keeps the columns of the
schema it saw last and the values of the batch it read last, so walking over all rows of a
batch reads its cells once.

## Main definitions

* `SeriesClient.Decoder` — the columns and values that are kept.
* `SeriesClient.Decoder.columnsFor` — the columns of a schema.
* `SeriesClient.Decoder.decode` — one row of a batch.
* `SeriesClient.Decoder.decodeAll` — all rows of a batch.

## Main results

* `SeriesClient.Decoder.columnsFor_idem` — asking for the same schema again changes nothing.

## Design

The kept columns belong to the schema asked for last and the kept values to the batch read
last. Rows are made from both, as they are.
-/

namespace SeriesClient

/-- The shape of decoded rows. -/
inductive RowShape where
  | list | dict | pointValues
  deriving DecidableEq, Repr

/-- A decoded row. -/
inductive DecodedRow where
  /-- A list or a dictionary. -/
  | value (v : Value)
  /-- A row of a time series. -/
  | point (pv : PointValues)

/-- The row of cells in a shape. -/
def RowShape.decode (shape : RowShape) (cells : List (Column × Value)) : Row.Logged DecodedRow :=
  match shape with
  | .list => let (r, n) := Row.toList cells; (r.map .value, n)
  | .dict => let (r, n) := Row.toDict cells; (r.map .value, n)
  | .pointValues => let (r, n) := Row.toPointValues cells; (r.map .point, n)

/-- What a decoder keeps. -/
structure Decoder where
  /-- The schema asked for last, with its columns and how often columns were made anew. -/
  schema : Option (List Field)
  /-- The columns of that schema. -/
  columns : List Column
  /-- How often columns were made. -/
  version : Nat
  /-- The number of the batch read last, and its values. -/
  loaded : Option (Nat × List (List Value))

namespace Decoder

/-- A decoder that has seen nothing. -/
def new : Decoder := ⟨none, [], 0, none⟩

/-- The decoder once it has been asked for the columns of a schema. -/
def columnsFor (d : Decoder) (schema : List Field) : Decoder :=
  if d.schema = some schema then d
  else
    { d with
      schema := some schema
      columns := schema.map Column.ofField
      version := d.version + 1 }

/-- Asking for the same schema again changes nothing. -/
theorem columnsFor_idem (d : Decoder) (schema : List Field) :
    (d.columnsFor schema).columnsFor schema = d.columnsFor schema := by
  unfold columnsFor
  split <;> simp_all

/-- Reads the columns of a batch, up to the first fault. -/
def readAll : List (Column × List Value) → Row.Logged (List (List Value))
  | [] => (.ok [], [])
  | (c, cells) :: rest =>
    match c.read cells with
    | (.error fault, notices) => (.error fault, notices)
    | (.ok values, notices) =>
      let (result, more) := readAll rest
      (result.map (values :: ·), notices ++ more)

/-- The values of a batch, and the decoder that keeps them. A batch that was read last is
not read again, and its columns are not looked up again either. -/
def load (d : Decoder) (b : Batch) : Row.Logged (List (List Value)) × Decoder :=
  match d.loaded with
  | some (number, values) => if number = b.number then ((.ok values, []), d) else fresh
  | none => fresh
where
  fresh : Row.Logged (List (List Value)) × Decoder :=
    let d := d.columnsFor b.schema
    match readAll (d.columns.zip b.cells) with
    | (.error fault, notices) => ((.error fault, notices), d)
    | (.ok values, notices) => ((.ok values, notices), { d with loaded := some (b.number, values) })

/-- The position that an index means in a list of the given length; negative indexes count
from the end. -/
def position? (length : Nat) (index : Int) : Option Nat :=
  let i := if index < 0 then index + length else index
  if 0 ≤ i ∧ i < length then some i.toNat else none

/-- The cells of a row, up to the first column that has no such row. -/
def rowCells (index : Int) :
    List (Column × List Value) → List (Column × Value) × Bool
  | [] => ([], true)
  | (c, values) :: rest =>
    match (position? values.length index).bind (values[·]?) with
    | some v =>
      let (cells, complete) := rowCells index rest
      ((c, v) :: cells, complete)
    | none => ([], false)

/-- A row of columns with their values. -/
def decodeRow (shape : RowShape) (columns : List (Column × List Value)) (index : Int) :
    Row.Logged DecodedRow :=
  let (cells, complete) := rowCells index columns
  let (result, notices) := shape.decode cells
  match result with
  | .error fault => (.error fault, notices)
  | .ok row => if complete then (.ok row, notices) else (.error .index, notices)

/-- One row of a batch. -/
def decode (d : Decoder) (shape : RowShape) (b : Batch) (index : Int) :
    Row.Logged DecodedRow × Decoder :=
  match d.load b with
  | ((.error fault, notices), d) => ((.error fault, notices), d)
  | ((.ok values, notices), d) =>
    let (result, more) := decodeRow shape (d.columns.zip values) index
    ((result, notices ++ more), d)

/-- The rows of a batch from one index on, up to the first fault. -/
def decodeFrom (shape : RowShape) (b : Batch) :
    Nat → Nat → Decoder → Row.Logged (List DecodedRow) × Decoder
  | 0, _, d => ((.ok [], []), d)
  | count + 1, index, d =>
    match d.decode shape b index with
    | ((.error fault, notices), d) => ((.error fault, notices), d)
    | ((.ok row, notices), d) =>
      let ((result, more), d) := decodeFrom shape b count (index + 1) d
      ((result.map (row :: ·), notices ++ more), d)

/-- All rows of a batch. -/
def decodeAll (d : Decoder) (shape : RowShape) (b : Batch) :
    Row.Logged (List DecodedRow) × Decoder :=
  decodeFrom shape b b.rowCount 0 d

/-- The decoder without the values it kept. -/
def release (d : Decoder) : Decoder := { d with loaded := none }

end Decoder

end SeriesClient
