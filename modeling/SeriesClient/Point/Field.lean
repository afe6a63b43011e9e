import SeriesClient.Value.Convert

set_option relaxedAutoImplicit false
set_option autoImplicit false

/-!
# Fields and names of line protocol

How names are escaped and field values are written in line protocol.

## Main definitions

* `SeriesClient.FieldKind` — the four kinds of field values.
* `SeriesClient.FieldKind.infer?` — the kind of a value.
* `SeriesClient.isDefined` — whether a value can be written at all.
* `SeriesClient.LineText.key`, `SeriesClient.LineText.measurement`,
  `SeriesClient.LineText.quoted` — escaping of names and of text.
* `SeriesClient.FieldKind.write` — a field value as line protocol.

## Design

Names are normally text. A name that is some other sequence is written item by item, and a
name that has no items is refused, which is why escaping a value may fail while escaping a
list of characters may not.
-/

namespace SeriesClient

/-- The kinds of field values. -/
inductive FieldKind where
  | float | integer | boolean | string
  deriving DecidableEq, Repr

namespace FieldKind

/-- The name of a kind. -/
def name : FieldKind → String
  | float => "float"
  | integer => "integer"
  | boolean => "boolean"
  | string => "string"

/-- The type that values of a kind have once they are converted. -/
def typeName : FieldKind → String
  | float => "float"
  | integer => "int"
  | boolean => "bool"
  | string => "str"

/-- Finds a kind by its name. -/
def ofName? (name : String) : Option FieldKind :=
  [float, integer, boolean, string].find? (·.name == name)

/-- The kind of a value; absent values and those of other types have none. -/
def infer? : Value → Option FieldKind
  | .bool _ | .sized (.bool _) => some boolean
  | .int _ | .sized (.integer ..) => some integer
  | .float _ | .decimal _ | .sized (.floating ..) => some float
  | .text _ => some string
  | _ => none

end FieldKind

/-- Whether a field value can be written: it is present, and it is not a floating-point
number without a finite value. -/
def isDefined : Value → Bool
  | .null => false
  | .float x => x.isFinite
  | .sized (.floating _ x) => x.isFinite
  | _ => true

namespace LineText

/-- One character of a tag key, tag value or field key. -/
def keyChar (c : Char) : List Char :=
  match c with
  | '\n' => ['\\', 'n']
  | '\r' => ['\\', 'r']
  | '\t' => ['\\', 't']
  | ' ' => ['\\', ' ']
  | ',' => ['\\', ',']
  | '=' => ['\\', '=']
  | c => [c]

/-- One character of a measurement, where an equals sign has no meaning. -/
def measurementChar (c : Char) : List Char :=
  if c = '=' then ['='] else keyChar c

/-- One character of a text between double quotes. -/
def quotedChar (c : Char) : List Char :=
  match c with
  | '\\' => ['\\', '\\']
  | '"' => ['\\', '"']
  | c => [c]

/-- An escaped tag key, tag value or field key. -/
def key (cs : List Char) : List Char := cs.flatMap keyChar

/-- An escaped measurement. -/
def measurement (cs : List Char) : List Char := cs.flatMap measurementChar

/-- A text between double quotes. -/
def quoted (cs : List Char) : List Char := '"' :: cs.flatMap quotedChar ++ ['"']

/-- The texts that a sequence consists of. -/
def pieces (i : Nat) : List Value → Except Fault (List (List Char))
  | [] => .ok []
  | .text s :: rest => do
    let more ← pieces (i + 1) rest
    return s.toList :: more
  | v :: _ => .error (.mistyped (.textItem i v.qualifiedName))

/-- The escaped form of a name: of each character of a text, and of each item of another
sequence. Items of more than one character stay as they are. -/
def escapeValue (escape : Char → List Char) (v : Value) : Except Fault (List Char) :=
  match v with
  | .text s => .ok (s.toList.flatMap escape)
  | v => do
    let items ← v.items
    items.forM Value.checkKey
    let texts ← pieces 0 items
    return texts.flatMap fun
      | [c] => escape c
      | cs => cs

end LineText

namespace FieldKind

/-- A number with at least one digit on each side of the point and no exponent; the digits
are the fewest that read back in the width of the number. -/
def writeFloat : Value → Except Fault (List Char)
  | .decimal d => return (← d.toDouble).positional .double
  | .sized (.floating width x) => return x.positional width.format
  | v => return (← v.toReal).positional .double

/-- A number with its fraction cut off. A tuple is taken for the list of numbers to write,
of which there must be one. -/
def writeInteger : Value → Except Fault (List Char)
  | .tuple [] => .error (.mistyped .formatTooFew)
  | .tuple (v :: rest) => do
    let n ← v.toInteger
    if rest.isEmpty then return intDigits n ++ ['i'] else .error (.mistyped .formatTooMany)
  | v => return intDigits (← v.toInteger) ++ ['i']

/-- A field value as line protocol. A value of no known kind is written as plain text. -/
def write (kind : Option FieldKind) (v : Value) : Except Fault (List Char) :=
  match kind with
  | some float => writeFloat v
  | some integer => writeInteger v
  | some boolean => .ok (if v.truthy then "true".toList else "false".toList)
  | some string => return '"' :: (← LineText.escapeValue LineText.quotedChar v) ++ ['"']
  | none => .ok v.plain

end FieldKind

end SeriesClient
