import SeriesClient.Point.Basic

set_option relaxedAutoImplicit false
set_option autoImplicit false

/-!
# Line protocol

Points as lines of text, and sequences of write entries as batches of lines.

## Main definitions

* `SeriesClient.Point.line` — one point as one line.
* `SeriesClient.Entry` — what can be written: points, rows, and text of the caller's own.
* `SeriesClient.Entry.encode` — the lines of a sequence of entries.

## Main results

* `SeriesClient.Point.line_of_no_fields` — a point without a defined field has an empty
  line.

## Design

Fields stand in insertion order and tags in the order of their keys. A tag whose key or
value is empty is left out. The defaults fill in the tags that a point does not set
itself, so a tag that a point sets to an empty value hides the default.
-/

namespace SeriesClient

namespace Point

/-- The fields that can be written, in order. -/
def definedFields (p : Point) : List (Value × Value) :=
  p.values.fields.entries.filter fun e => isDefined e.2

/-- One field with its value. -/
def fieldText (p : Point) (e : Value × Value) : Except Fault (List Char) := do
  let name ← LineText.escapeValue LineText.keyChar e.1
  let written ← FieldKind.write (p.values.kind? e.1) e.2
  return name ++ '=' :: written

/-- One tag with the comma before it; nothing for an empty key or value. -/
def tagText (e : Value × Value) : Except Fault (List Char) := do
  if e.1.truthy && e.2.truthy then
    let name ← LineText.escapeValue LineText.keyChar e.1
    return ',' :: name ++ '=' :: LineText.key e.2.plain
  else return []

/-- The timestamp with the space before it, in the unit that a setting names; a setting
that counts as false leaves nanoseconds. -/
def timestampText (precision : Value) : Option Int → Except Fault (List Char)
  | none => .ok []
  | some nanos => do
    let p ← Precision.ofValue (if precision.truthy then precision else .precision .nano)
    return ' ' :: intDigits (Timestamp.truncateTo p nanos)

/-- The tags of a point with the defaults for those it does not set. -/
def effectiveTags (p : Point) (defaults : OrderedMap Value Value) : OrderedMap Value Value :=
  defaults.merge p.values.tags

/-- A point as one line; empty if no field can be written. -/
def line (p : Point) (precision defaults : Value) : Except Fault (List Char) := do
  let fields ← p.definedFields.mapM p.fieldText
  if fields.isEmpty then return []
  let tags := p.effectiveTags (← defaults.toMap)
  let measurement ← LineText.escapeValue LineText.measurementChar p.values.measurement
  let tagTexts ← (← sortEntries tags.entries).mapM tagText
  let timestamp ← timestampText precision p.values.timestamp
  return measurement ++ tagTexts.flatten ++ ' ' :: List.intercalate [','] fields ++ timestamp

/-- A point without a field that can be written has an empty line. -/
theorem line_of_no_fields (p : Point) (precision defaults : Value) (h : p.definedFields = []) :
    p.line precision defaults = .ok [] := by
  simp [line, h]
  rfl

/-- The text that shows a point. -/
def shown (p : Point) : Except Fault (List Char) := do
  let line ← p.line .null .null
  return "Point(".toList ++ Quoted.text line ++ [')']

end Point

/-- What can be written. -/
inductive Entry where
  /-- A point. -/
  | point (p : Point)
  /-- A row that is not a point yet. -/
  | values (pv : PointValues)
  /-- Anything else; its plain text is taken for a line. -/
  | raw (v : Value)

/-- An argument that is to be written: a sequence of entries, or something that may or may
not be one. -/
inductive Entries where
  /-- A sequence. -/
  | many (entries : List Entry)
  /-- A single thing in the place of a sequence. -/
  | one (e : Entry)

namespace Entry

/-- The line of an entry; empty for an absent one. -/
def line (precision defaults : Value) : Entry → Except Fault (List Char)
  | point p => p.line precision defaults
  | values pv => do (← Point.ofValues pv).line precision defaults
  | raw .null => .ok []
  | raw v => .ok v.plain

/-- The lines of a sequence of entries, one below the other, without the empty ones. -/
def encode (precision defaults : Value) (entries : List Entry) : Except Fault (List Char) := do
  let lines ← entries.mapM (line precision defaults)
  return List.intercalate ['\n'] (lines.filter fun l => !l.isEmpty)

end Entry

/-- The entries of an argument. A text is taken for the sequence of its characters. -/
def Entries.toList : Entries → Except Fault (List Entry)
  | many entries => .ok entries
  | one (.raw v) => return (← v.items).map .raw
  | one (.point _) => .error (.mistyped (.notIterable "Point"))
  | one (.values _) => .error (.mistyped (.notIterable "PointValues"))

end SeriesClient
