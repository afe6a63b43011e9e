import SeriesClient.Point.LineProtocol

set_option relaxedAutoImplicit false
set_option autoImplicit false

/-!
# Shared rows

Rows that are referred to by more than one point. A point made over a row shares it: a
change through one of them is seen through the other. A copy of a row is a row of its own.

## Main definitions

* `SeriesClient.Handle` — a reference to a row, as a point or as a bare row.
* `SeriesClient.Registry` — all rows, and the references that have a name.
* `SeriesClient.Registry.perform` — the effect of an operation.

## Main results

* `SeriesClient.Registry.row_update` — an updated row is the one that is read.

## Design

Rows are never dropped, so a reference stays valid.
-/

namespace SeriesClient

/-- Whether a reference is to a point or to a bare row. -/
inductive Shape where
  | point | row
  deriving DecidableEq, Repr

/-- The name of the type of a reference. -/
def Shape.typeName : Shape → String
  | point => "Point"
  | row => "PointValues"

/-- A reference to a row. -/
structure Handle where
  /-- What the row is seen as. -/
  shape : Shape
  /-- Which row it is. -/
  index : Nat
  deriving DecidableEq, Repr

/-- All rows, and the references that have a name. -/
structure Registry where
  /-- The rows. -/
  rows : List PointValues
  /-- The named references. -/
  names : OrderedMap String Handle

namespace Registry

/-- An operation on rows. -/
inductive Operation where
  /-- Makes a point over a new row. -/
  | newPoint (measurement : Value)
  /-- Makes a point over a row that exists. -/
  | pointOver (measurement : Value) (values : Handle)
  /-- Makes a row. -/
  | newRow (measurement : Value)
  /-- Makes a point over a copy of a row. -/
  | pointOf (values : Handle)
  /-- Reads or changes a row. -/
  | call (on : Handle) (call : PointValues.Call)
  /-- Writes a point as a line. -/
  | line (on : Handle) (precision defaults : Value)
  /-- Copies a row; the copy is seen as what the row is seen as. -/
  | copy (on : Handle)
  /-- Makes a point over a copy of a row, which first gets the measurement given, if any. -/
  | asPoint (on : Handle) (measurement : Value)
  /-- Compares a reference with another one, or with something that is none. -/
  | equal (a : Handle) (b : Option Handle)
  /-- Shows a reference. -/
  | display (on : Handle)

/-- What an operation answers. -/
inductive Reply where
  /-- The answer of a call. -/
  | answer (a : PointValues.Answer)
  /-- A reference to a new object. -/
  | object (h : Handle)

/-- No rows and no names. -/
def empty : Registry := ⟨[], .empty⟩

/-- The row of an index. -/
def row (r : Registry) (i : Nat) : PointValues := (r.rows[i]?).getD default

/-- Replaces a row. -/
def update (r : Registry) (i : Nat) (pv : PointValues) : Registry :=
  { r with rows := r.rows.set i pv }

/-- An updated row is the one that is read. -/
theorem row_update (r : Registry) (i : Nat) (pv : PointValues) (h : i < r.rows.length) :
    (r.update i pv).row i = pv := by
  simp [row, update, h]

/-- Adds a row and refers to it. -/
def add (r : Registry) (shape : Shape) (pv : PointValues) : Except Fault Reply × Registry :=
  (.ok (.object ⟨shape, r.rows.length⟩), { r with rows := r.rows ++ [pv] })

/-- An answer that is a value. -/
def value (v : Value) : Reply := .answer (.value v)

/-- An answer that is a text. -/
def text (cs : List Char) : Reply := value (.text (String.ofList cs))

/-- The complaint that a reference has no such member. -/
def noMember (h : Handle) (member : String) : Fault :=
  .mistyped (.noMember h.shape.typeName member)

/-- Makes a point over a copy of a row. -/
def pointOf (r : Registry) (values : Handle) : Except Fault Reply × Registry :=
  match values.shape, Point.ofValues (r.row values.index) with
  | .point, _ => (.error (noMember values "copy"), r)
  | .row, .ok p => r.add .point p.values
  | .row, .error fault => (.error fault, r)

/-- Whether two indexes are of equal rows. The tags and fields of a row are their own equals,
even those that stand for no number, so of a single row only the measurement is compared. -/
def sameRow (r : Registry) (i j : Nat) : Bool :=
  if i = j then (r.row i).measurement == (r.row i).measurement else r.row i == r.row j

/-- The effect of an operation. -/
def perform (r : Registry) : Operation → Except Fault Reply × Registry
  | .newPoint measurement =>
    match Point.new measurement (PointValues.new .null) with
    | .ok p => r.add .point p.values
    | .error fault => (.error fault, r)
  | .pointOver measurement values =>
    match Point.new measurement (r.row values.index) with
    | .ok p => (.ok (.object ⟨.point, values.index⟩), r.update values.index p.values)
    | .error fault => (.error fault, r)
  | .newRow measurement => r.add .row (PointValues.new measurement)
  | .pointOf values => r.pointOf values
  | .call on call =>
    let (result, pv) := (r.row on.index).run call
    (result.map .answer, r.update on.index pv)
  | .line on precision defaults =>
    match on.shape with
    | .row => (.error (noMember on "to_line_protocol"), r)
    | .point => ((Point.line ⟨r.row on.index⟩ precision defaults).map text, r)
  | .copy on => r.add on.shape (r.row on.index)
  | .asPoint on measurement =>
    match on.shape with
    | .point => (.error (noMember on "as_point"), r)
    | .row =>
      match if measurement.isNull then .ok (r.row on.index)
        else (r.row on.index).setMeasurement measurement with
      | .ok pv => (r.update on.index pv).pointOf on
      | .error fault => (.error fault, r)
  | .equal a b =>
    (.ok (value (.bool (b.elim false fun b => a.shape == b.shape && r.sameRow a.index b.index))), r)
  | .display on =>
    match on.shape with
    | .row => (.ok (text (r.row on.index).shown), r)
    | .point => ((Point.shown ⟨r.row on.index⟩).map text, r)

/-- Gives a name to a reference. -/
def bind (r : Registry) (name : String) (h : Handle) : Registry :=
  { r with names := r.names.insert name h }

end Registry

end SeriesClient
