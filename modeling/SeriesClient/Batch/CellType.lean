import SeriesClient.Value.Text

set_option relaxedAutoImplicit false
set_option autoImplicit false

/-!
# Types of cells

The types that the columns of a query result have on the wire.

## Main definitions

* `SeriesClient.CellType`, `SeriesClient.Members` — the types.
* `SeriesClient.CellType.label` — their names.
* `SeriesClient.CellType.unit?` — the unit of timestamps.
* `SeriesClient.CellType.countsAsIntegers` — whether cells can be read as plain integers.

## Main results

* `SeriesClient.CellType.unit?_timestamp` — a timestamp column declares its unit.
-/

namespace SeriesClient

/-- How the texts of a column are stored. -/
inductive TextLayout where
  | plain | large | view
  deriving DecidableEq, Repr

mutual

/-- The type of the cells of a column. -/
inductive CellType where
  /-- Integers. -/
  | integer (signed : Bool) (bits : Nat)
  /-- Floating-point numbers. -/
  | floating (width : Width)
  /-- Truth values. -/
  | bool
  /-- Texts. -/
  | text (layout : TextLayout)
  /-- Byte strings. -/
  | binary
  /-- Nothing but absent cells. -/
  | null
  /-- Dates, counted in days or, if `fine`, in milliseconds. -/
  | date (fine : Bool)
  /-- Clock readings. -/
  | time (unit : Precision)
  /-- Instants, with the zone they are shown in. -/
  | timestamp (unit : Precision) (zone : Option String)
  /-- Durations. -/
  | duration (unit : Precision)
  /-- Decimals with a fixed number of places. -/
  | decimal (precision scale : Nat)
  /-- Lists. -/
  | list (item : CellType)
  /-- Structures. -/
  | struct (members : Members)
  /-- Cells that refer to a table of distinct values. -/
  | dictionary (item : CellType)

/-- The members of a structure, in order. -/
inductive Members where
  /-- No members. -/
  | none
  /-- A member before others. -/
  | member (name : String) (type : CellType) (rest : Members)

end

deriving instance DecidableEq for CellType, Members

deriving instance Repr for CellType, Members

instance : Inhabited CellType := ⟨.null⟩

namespace CellType

/-- The name of a width. -/
def widthLabel : Width → String
  | .half => "halffloat"
  | .single => "float"
  | .double => "double"

/-- The number of bits that a unit of clock readings is stored in. -/
def timeBits : Precision → String
  | .second | .milli => "32"
  | .micro | .nano => "64"

mutual

/-- The name of a type. -/
def label : CellType → String
  | integer signed bits => (if signed then "int" else "uint") ++ toString bits
  | floating width => widthLabel width
  | bool => "bool"
  | text .plain => "string"
  | text .large => "large_string"
  | text .view => "string_view"
  | binary => "binary"
  | null => "null"
  | date false => "date32[day]"
  | date true => "date64[ms]"
  | time unit => "time" ++ timeBits unit ++ "[" ++ unit.shortName ++ "]"
  | timestamp unit .none => "timestamp[" ++ unit.shortName ++ "]"
  | timestamp unit (some zone) => "timestamp[" ++ unit.shortName ++ ", tz=" ++ zone ++ "]"
  | duration unit => "duration[" ++ unit.shortName ++ "]"
  | decimal precision scale =>
    "decimal128(" ++ toString precision ++ ", " ++ toString scale ++ ")"
  | list item => "list<item: " ++ label item ++ ">"
  | struct members => "struct<" ++ String.intercalate ", " (labels members) ++ ">"
  | dictionary item =>
    "dictionary<values=" ++ label item ++ ", indices=int32, ordered=0>"

/-- The names of members with their types. -/
def labels : Members → List String
  | .none => []
  | .member name type rest => (name ++ ": " ++ label type) :: labels rest

end

/-- The unit that a timestamp type declares. -/
def unit? : CellType → Option Precision
  | timestamp unit _ => some unit
  | _ => none

/-- Whether all cells of the type can be read as plain integers. -/
def countsAsIntegers : CellType → Bool
  | integer .. | bool | time _ | timestamp .. | duration _ => true
  | dictionary item => countsAsIntegers item
  | _ => false

/-- A timestamp column declares its unit. -/
theorem unit?_timestamp (unit : Precision) (zone : Option String) :
    (timestamp unit zone).unit? = some unit := rfl

end CellType

end SeriesClient
