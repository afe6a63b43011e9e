import SeriesClient.Point.Field
import SeriesClient.Timestamp

set_option relaxedAutoImplicit false
set_option autoImplicit false

/-!
# Rows of a series

One row of a time series: a measurement, tags, fields with their kinds, and a timestamp in
nanoseconds. The calls that read and change a row are values of a type, so that what holds
of every call, or of every sequence of calls, can be said.

## Main definitions

* `SeriesClient.PointValues` — a row.
* `SeriesClient.PointValues.Call` — the calls that read or change one row.
* `SeriesClient.PointValues.run` — the effect of a call.
* `SeriesClient.Point` — a row to be written.

## Design

The kinds of the fields are a map of their own. A kind is chosen when a field is set, from
the value or by the caller, and is not looked at again until the field is written.
-/

namespace SeriesClient

/-- One row of a time series. -/
structure PointValues where
  /-- The measurement; absent until it is set. -/
  measurement : Value
  /-- The tags. -/
  tags : OrderedMap Value Value
  /-- The field values. -/
  fields : OrderedMap Value Value
  /-- The kinds of the fields. -/
  kinds : OrderedMap Value (Option FieldKind)
  /-- Nanoseconds since 1970. -/
  timestamp : Option Int
  deriving Inhabited

namespace PointValues

/-- A row without tags, fields and timestamp. -/
def new (measurement : Value) : PointValues :=
  ⟨measurement, .empty, .empty, .empty, none⟩

/-- A call that reads or changes one row. -/
inductive Call where
  | getMeasurement
  | setMeasurement (v : Value)
  | getTimestamp
  | setTimestamp (v unit : Value)
  | getTag (name : Value)
  | setTag (name v : Value)
  | setTags (tags : Value)
  | removeTag (name : Value)
  | tagNames
  | getField (name : Value)
  | fieldType (name : Value)
  | typedField (kind : FieldKind) (name : Value)
  | fieldNames
  | hasFields
  | setField (name v : Value)
  | setFields (fields : Value)
  | setTypedField (kind : FieldKind) (name v : Value)
  | removeField (name : Value)

/-- What a call answers. -/
inductive Answer where
  /-- A value. -/
  | value (v : Value)
  /-- The name of a type. -/
  | typeName (name : String)
  /-- The row itself. -/
  | itself

/-- Replaces the measurement, which may not be taken away. -/
def setMeasurement (pv : PointValues) (v : Value) : Except Fault PointValues :=
  if v.isNull then .error (.invalid .measurementRequired) else .ok { pv with measurement := v }

/-- Replaces the timestamp. -/
def setTimestamp (pv : PointValues) (v unit : Value) : Except Fault PointValues := do
  let nanos ← Timestamp.ofApplication v unit
  return { pv with timestamp := nanos }

/-- Stores a tag. -/
def setTag (pv : PointValues) (name v : Value) : Except Fault PointValues := do
  name.checkKey
  return { pv with tags := pv.tags.insert name v }

/-- Stores a field with its kind; the name may not be empty. -/
def putField (pv : PointValues) (name v : Value) (kind : Option FieldKind) :
    Except Fault PointValues :=
  if !name.truthy then .error (.invalid .fieldNameEmpty)
  else do
    name.checkKey
    return { pv with fields := pv.fields.insert name v, kinds := pv.kinds.insert name kind }

/-- Stores a field with the kind of its value. -/
def setField (pv : PointValues) (name v : Value) : Except Fault PointValues :=
  pv.putField name v (FieldKind.infer? v)

/-- The value as a kind of field stores it. -/
def convert (kind : FieldKind) (v : Value) : Except Fault Value :=
  match kind with
  | .float => return .float (← v.toDouble)
  | .integer => return .int (← v.toInt)
  | .string => .ok (.text v.toText)
  | .boolean => .ok (.bool v.truthy)

/-- Stores a field, converted to the given kind. -/
def setTypedField (pv : PointValues) (kind : FieldKind) (name v : Value) :
    Except Fault PointValues := do
  let converted ← convert kind v
  pv.putField name converted (some kind)

/-- A map without the entry of a name. The name is not looked at if there are no entries. -/
def without {α : Type} (m : OrderedMap Value α) (name : Value) :
    Except Fault (OrderedMap Value α) :=
  if m.isEmpty then .ok m
  else do
    name.checkKey
    return m.erase name

/-- Removes a tag, if there is one. -/
def removeTag (pv : PointValues) (name : Value) : Except Fault PointValues := do
  let tags ← without pv.tags name
  return { pv with tags }

/-- Removes a field, if there is one. -/
def removeField (pv : PointValues) (name : Value) : Except Fault PointValues := do
  let fields ← without pv.fields name
  let kinds ← without pv.kinds name
  return { pv with fields, kinds }

/-- The value of a tag; nothing if it is absent. -/
def getTag (pv : PointValues) (name : Value) : Except Fault Value := do
  name.checkKey
  return (pv.tags.find? name).getD .null

/-- The value of a field; nothing if it is absent. -/
def getField (pv : PointValues) (name : Value) : Except Fault Value := do
  name.checkKey
  return (pv.fields.find? name).getD .null

/-- The kind of a field; none if it is absent. -/
def kind? (pv : PointValues) (name : Value) : Option FieldKind :=
  ((pv.kinds.find? name).getD none)

/-- The type of a field: that of its kind, or else that of its value. -/
def fieldType (pv : PointValues) (name : Value) : Except Fault Answer := do
  let v ← pv.getField name
  return match pv.kind? name with
    | some kind => .typeName kind.typeName
    | none => if v.isNull then .value .null else .typeName v.typeName

/-- The value of a field that must have the given kind; nothing if it is absent. -/
def typedField (pv : PointValues) (kind : FieldKind) (name : Value) : Except Fault Value := do
  let v ← pv.getField name
  if v.isNull then return .null
  else if pv.kind? name = some kind then return v
  else
    let stored := ((pv.kind? name).map FieldKind.name).getD "None"
    throw (.mistyped (.fieldKind name.toText stored kind.name))

/-- Answers with the row itself, changed; a change that is refused leaves the row alone. -/
def commit (pv : PointValues) (changed : Except Fault PointValues) :
    Except Fault Answer × PointValues :=
  match changed with
  | .ok pv' => (.ok .itself, pv')
  | .error fault => (.error fault, pv)

/-- Stores entries one after the other, up to the first that is refused. -/
def storeAll (store : PointValues → Value → Value → Except Fault PointValues) :
    List (Value × Value) → PointValues → Except Fault Answer × PointValues
  | [], pv => (.ok .itself, pv)
  | (k, v) :: rest, pv =>
    match store pv k v with
    | .ok pv' => storeAll store rest pv'
    | .error fault => (.error fault, pv)

/-- The answer to a call that changes nothing. -/
def answer (pv : PointValues) (result : Except Fault Answer) : Except Fault Answer × PointValues :=
  (result, pv)

/-- The effect of a call on the row it is made on. -/
def run (pv : PointValues) : Call → Except Fault Answer × PointValues
  | .getMeasurement => pv.answer (.ok (.value pv.measurement))
  | .setMeasurement v => pv.commit (pv.setMeasurement v)
  | .getTimestamp => pv.answer (.ok (.value (.ofInt? pv.timestamp)))
  | .setTimestamp v unit => pv.commit (pv.setTimestamp v unit)
  | .getTag name => pv.answer ((pv.getTag name).map .value)
  | .setTag name v => pv.commit (pv.setTag name v)
  | .setTags tags =>
    match tags.dictEntries with
    | .ok entries => storeAll setTag entries pv
    | .error fault => (.error fault, pv)
  | .removeTag name => pv.commit (pv.removeTag name)
  | .tagNames => pv.answer (.ok (.value (.list pv.tags.keys)))
  | .getField name => pv.answer ((pv.getField name).map .value)
  | .fieldType name => pv.answer (pv.fieldType name)
  | .typedField kind name => pv.answer ((pv.typedField kind name).map .value)
  | .fieldNames => pv.answer (.ok (.value (.list pv.fields.keys)))
  | .hasFields => pv.answer (.ok (.value (.bool !pv.fields.isEmpty)))
  | .setField name v => pv.commit (pv.setField name v)
  | .setFields fields =>
    match fields.dictEntries with
    | .ok entries => storeAll setField entries pv
    | .error fault => (.error fault, pv)
  | .setTypedField kind name v => pv.commit (pv.setTypedField kind name v)
  | .removeField name => pv.commit (pv.removeField name)

/-- The kinds of the fields as a value, for comparison. -/
def kindValues (pv : PointValues) : Value :=
  .dict (pv.kinds.mapValues fun kind => Value.ofText? (kind.map FieldKind.name)).entries

/-- Two rows are equal when all their parts are; the order of tags and fields is free. -/
def same (a b : PointValues) : Bool :=
  a.measurement == b.measurement && Value.dict a.tags.entries == Value.dict b.tags.entries
    && Value.dict a.fields.entries == Value.dict b.fields.entries
    && a.kindValues == b.kindValues && a.timestamp == b.timestamp

instance : BEq PointValues := ⟨same⟩

/-- The text that shows a row. -/
def shown (pv : PointValues) : List Char :=
  "PointValues(".toList ++ pv.measurement.shown
    ++ ", tags=".toList ++ (Value.dict pv.tags.entries).shown
    ++ ", fields=".toList ++ (Value.dict pv.fields.entries).shown
    ++ ", timestamp=".toList ++ (Value.ofInt? pv.timestamp).shown ++ [')']

end PointValues

/-- A row to be written; it always has a measurement. -/
structure Point where
  /-- The row. -/
  values : PointValues

namespace Point

/-- A point of the given measurement over a row. -/
def new (measurement : Value) (values : PointValues) : Except Fault Point :=
  (values.setMeasurement measurement).map fun pv => ⟨pv⟩

/-- A point over a copy of a row, which must have a measurement. -/
def ofValues (values : PointValues) : Except Fault Point :=
  if values.measurement.isNull then .error (.invalid .measurementMissing)
  else .ok ⟨values⟩

end Point

end SeriesClient
