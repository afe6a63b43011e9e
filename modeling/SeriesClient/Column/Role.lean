import SeriesClient.Text.Utf8
import SeriesClient.Value.Convert

set_option relaxedAutoImplicit false
set_option autoImplicit false

/-!
# Column roles

The role of a column in a query result, as its metadata declares it: a field with the type
of its values, a tag, the timestamp, or the measurement.

## Main definitions

* `SeriesClient.FieldType` — the declared types of field values.
* `SeriesClient.ColumnType` — the roles.
* `SeriesClient.ColumnType.metadata` — the text that declares a role.
* `SeriesClient.ColumnType.ofText?` — reads that text.

## Main results

* `SeriesClient.ColumnType.ofText?_metadata` — each declared role is read back.

## Design

A field whose type is not among the known ones is a field of unknown type. Such a text is
recognised by its third part alone, counted between pairs of colons.
-/

namespace SeriesClient

/-- The declared type of the values of a field. -/
inductive FieldType where
  | integer | uinteger | float | string | boolean
  deriving DecidableEq, Repr

/-- The name of a field type. -/
def FieldType.name : FieldType → String
  | integer => "integer"
  | uinteger => "uinteger"
  | float => "float"
  | string => "string"
  | boolean => "boolean"

/-- The role of a column. -/
inductive ColumnType where
  /-- A field, with the type of its values if that is known. -/
  | field (type : Option FieldType)
  | tag
  | timestamp
  | measurement
  deriving DecidableEq, Repr

namespace ColumnType

/-- A role with the type of its values. -/
def label : ColumnType → String
  | field (some type) => "field::" ++ type.name
  | field none => "field"
  | tag => "tag"
  | timestamp => "timestamp"
  | measurement => "measurement"

/-- The text that declares a role. -/
def metadata (c : ColumnType) : String :=
  "iox::column_type::" ++ c.label

/-- The text that shows a role. -/
def display (c : ColumnType) : String :=
  "<ColumnType " ++ c.label ++ ">"

/-- The roles that are declared in full. -/
def declared : List ColumnType :=
  [field (some .integer), field (some .uinteger), field (some .float), field (some .string),
   field (some .boolean), tag, timestamp, measurement]

/-- The parts of a text between pairs of colons; `current` is the part being read, last
character first. -/
def splitParts (current : List Char) : List Char → List (List Char)
  | ':' :: ':' :: rest => current.reverse :: splitParts [] rest
  | c :: rest => splitParts (c :: current) rest
  | [] => [current.reverse]

/-- The role that a text declares. -/
def ofText? (s : String) : Option ColumnType :=
  match declared.find? (·.metadata == s) with
  | some c => some c
  | none =>
    match splitParts [] s.toList with
    | _ :: _ :: part :: _ => if part = "field".toList then some (field none) else none
    | _ => none

/-- The role that a metadata value declares: nothing for no value; bytes are read as text,
with replacement. -/
def ofMetadata? (v : Value) : Except Fault (Option ColumnType) :=
  match v with
  | .null => .ok none
  | .text s => .ok (ofText? s)
  | .bytes bs => .ok (ofText? (String.ofList (Utf8.decodeLossy bs)))
  | v => do
    v.checkKey
    .error (.mistyped (.noMember v.qualifiedName "split"))

/-- Each declared role is read back from its text. -/
theorem ofText?_metadata (c : ColumnType) : ofText? c.metadata = some c := by
  rcases c with (_ | ⟨⟨⟩⟩) | _ | _ | _ <;> decide +kernel

end ColumnType

end SeriesClient
