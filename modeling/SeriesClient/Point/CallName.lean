import SeriesClient.Point.Registry

set_option relaxedAutoImplicit false
set_option autoImplicit false

/-!
# Calls by name

Operations on points can be given by the name of a call, with arguments that have a place
and a name.

## Main definitions

* `SeriesClient.PointValues.Call.named?` — a call of a row by its name.
* `SeriesClient.Registry.Operation.named?` — an operation on a reference by its name.

## Design

An argument that is not given is absent, but for the unit of a timestamp, which is then
nanoseconds.
-/

namespace SeriesClient

/-- A call of a row by its name. -/
def PointValues.Call.named? (call : String) (argument : Nat → String → Option Value) :
    Option PointValues.Call :=
  let given (i : Nat) (k : String) : Value := (argument i k).getD .null
  let name := given 0 "name"
  let v := given 1 "value"
  match call with
  | "get_measurement" => some .getMeasurement
  | "set_measurement" => some (.setMeasurement (given 0 "measurement"))
  | "get_timestamp" => some .getTimestamp
  | "set_timestamp" =>
    some (.setTimestamp (given 0 "value") ((argument 1 "write_precision").getD (.precision .nano)))
  | "get_tag" => some (.getTag name)
  | "set_tag" => some (.setTag name v)
  | "set_tags" => some (.setTags (given 0 "tags"))
  | "remove_tag" => some (.removeTag name)
  | "get_tag_names" => some .tagNames
  | "get_field" => some (.getField name)
  | "get_field_type" => some (.fieldType name)
  | "get_float_field" => some (.typedField .float name)
  | "get_integer_field" => some (.typedField .integer name)
  | "get_string_field" => some (.typedField .string name)
  | "get_boolean_field" => some (.typedField .boolean name)
  | "get_field_names" => some .fieldNames
  | "has_fields" => some .hasFields
  | "set_field" => some (.setField name v)
  | "set_fields" => some (.setFields (given 0 "fields"))
  | "set_float_field" => some (.setTypedField .float name v)
  | "set_integer_field" => some (.setTypedField .integer name v)
  | "set_string_field" => some (.setTypedField .string name v)
  | "set_boolean_field" => some (.setTypedField .boolean name v)
  | "remove_field" => some (.removeField name)
  | _ => none

/-- An operation on a reference by its name; `other` is the reference that is the first
argument, if it is one. -/
def Registry.Operation.named? (on : Handle) (call : String)
    (argument : Nat → String → Option Value) (other : Option Handle) :
    Option Registry.Operation :=
  let given (i : Nat) (k : String) : Value := (argument i k).getD .null
  match PointValues.Call.named? call argument with
  | some c => some (.call on c)
  | none =>
    match call with
    | "to_line_protocol" => some (.line on (given 0 "write_precision") (given 1 "default_tags"))
    | "copy" => some (.copy on)
    | "as_point" => some (.asPoint on (given 0 "measurement"))
    | "eq" => some (.equal on other)
    | "repr" => some (.display on)
    | _ => none

end SeriesClient
