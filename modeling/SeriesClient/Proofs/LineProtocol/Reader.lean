import SeriesClient.Point.LineProtocol

set_option relaxedAutoImplicit false
set_option autoImplicit false

/-!
# Reading line protocol

A reader of lines, character by character. It knows how names and texts are escaped and
where a name, a value and a line end, and nothing of how points are written.

## Main definitions

* `SeriesClient.FieldReading` — a field value as a line spells it.
* `SeriesClient.LineRecord` — what a line says.
* `SeriesClient.LineReader.step` — the reader takes in one character.
* `SeriesClient.LineReader.read` — the records of a text.

## Main results

* `SeriesClient.LineReader.read_eq_some` — a text is read when its lines are.

## Design

A backslash in a name gives the character after it another meaning if that character is
`n`, `r`, `t`, a space, a comma or an equals sign, and otherwise stands for itself. The first
delimiter that is not escaped ends a name. In a measurement an equals sign is no delimiter.
A text ends at the first quote that is not escaped, so it may hold delimiters and line ends.
Every line ends in a line end; the one of the last line is left out.
-/

namespace SeriesClient

/-- A field value as a line spells it. -/
inductive FieldReading where
  /-- A floating-point number, as its text. -/
  | float (text : String)
  /-- An integer. -/
  | integer (n : Int)
  /-- A truth value. -/
  | boolean (b : Bool)
  /-- A text. -/
  | string (s : String)
  deriving DecidableEq, Repr

namespace FieldReading

/-- The kind of a value, which its spelling shows. -/
def kind : FieldReading → FieldKind
  | float _ => .float
  | integer _ => .integer
  | boolean _ => .boolean
  | string _ => .string

/-- Whether a character belongs to the digits of a floating-point number. -/
def isFloatChar (c : Char) : Bool := c.isDigit || c == '.' || c == '-'

/-- Whether a text is the spelling of a floating-point number. -/
def isFloatText (cs : List Char) : Bool :=
  cs == ['n', 'a', 'n'] || cs == ['i', 'n', 'f'] || cs == ['-', 'i', 'n', 'f']
    || (!cs.isEmpty && cs.all isFloatChar)

/-- The value that stands without quotes: a truth value, an integer with an `i` behind it, or
else a floating-point number. -/
def ofToken? (cs : List Char) : Option FieldReading :=
  if cs = "true".toList then some (.boolean true)
  else if cs = "false".toList then some (.boolean false)
  else if cs.getLast? = some 'i' then (DecimalNumber.signed? cs.dropLast).map .integer
  else if isFloatText cs then some (.float (String.ofList cs))
  else none

end FieldReading

/-- What a line says. -/
structure LineRecord where
  /-- The measurement. -/
  measurement : String
  /-- The tags in the order of the line. -/
  tags : List (String × String)
  /-- The fields in the order of the line. -/
  fields : List (String × FieldReading)
  /-- The timestamp, in whichever unit the text is written in. -/
  timestamp : Option Int
  deriving DecidableEq, Repr

/-- A record that nothing has been read into. -/
def LineRecord.blank : LineRecord := ⟨"", [], [], none⟩

namespace LineReader

/-- What is being read. -/
inductive Place where
  | measurement
  | tagKey
  | tagValue (key : String)
  | fieldKey
  | fieldValue (key : String)
  | quoted (key : String)
  | fieldEnd
  | timestamp
  deriving DecidableEq, Repr

/-- The state of the reader. -/
structure State where
  /-- The records of the lines that have ended. -/
  records : List LineRecord
  /-- What has been read of the line. -/
  current : LineRecord
  /-- What is being read. -/
  place : Place
  /-- The characters of the name or value that is being read. -/
  word : List Char
  /-- Whether the last character was a backslash that may give the next one a meaning. -/
  escaped : Bool
  deriving DecidableEq, Repr

/-- The reader at the beginning of a line. -/
def start (records : List LineRecord) : State := ⟨records, .blank, .measurement, [], false⟩

namespace State

/-- Takes in a character of a name or value. -/
def push (s : State) (c : Char) : State := { s with word := s.word ++ [c], escaped := false }

/-- Remembers a backslash. -/
def escape (s : State) : State := { s with escaped := true }

/-- Goes on to something else in the same line. -/
def goTo (s : State) (current : LineRecord) (place : Place) : State :=
  { s with current, place, word := [], escaped := false }

/-- Adds a field to the line. -/
def addField (s : State) (key : String) (r : FieldReading) : State :=
  s.goTo { s.current with fields := s.current.fields ++ [(key, r)] } .fieldEnd

/-- Ends the line. -/
def endLine (s : State) (timestamp : Option Int) : State :=
  start (s.records ++ [{ s.current with timestamp }])

end State

/-- The character that an escape stands for. -/
def unescaped? : Char → Option Char
  | 'n' => some '\n'
  | 'r' => some '\r'
  | 't' => some '\t'
  | ' ' => some ' '
  | ',' => some ','
  | '=' => some '='
  | _ => none

/-- The characters that end a name. -/
def delimiters : Place → List Char
  | .measurement => [',', ' ', '\n']
  | _ => [',', ' ', '=', '\n']

/-- A delimiter behind a name. -/
def nameEnd (s : State) (c : Char) : Option State :=
  let name := String.ofList s.word
  match s.place, c with
  | .measurement, ',' => some (s.goTo { s.current with measurement := name } .tagKey)
  | .measurement, ' ' => some (s.goTo { s.current with measurement := name } .fieldKey)
  | .tagKey, '=' => some (s.goTo s.current (.tagValue name))
  | .tagValue key, ',' =>
    some (s.goTo { s.current with tags := s.current.tags ++ [(key, name)] } .tagKey)
  | .tagValue key, ' ' =>
    some (s.goTo { s.current with tags := s.current.tags ++ [(key, name)] } .fieldKey)
  | .fieldKey, '=' => some (s.goTo s.current (.fieldValue name))
  | _, _ => none

/-- A character of a name that no backslash stands before. -/
def plainChar (s : State) (c : Char) : Option State :=
  if c = '\\' then some s.escape
  else if c ∈ delimiters s.place then nameEnd s c
  else some (s.push c)

/-- A character of a name. -/
def nameChar (s : State) (c : Char) : Option State :=
  if s.escaped then
    match unescaped? c with
    | some d => some (s.push d)
    | none => plainChar (s.push '\\') c
  else plainChar s c

/-- A character of a text between quotes. -/
def quotedChar (s : State) (key : String) (c : Char) : Option State :=
  if s.escaped then
    some (if c = '"' ∨ c = '\\' then s.push c else (s.push '\\').push c)
  else if c = '\\' then some s.escape
  else if c = '"' then some (s.addField key (.string (String.ofList s.word)))
  else some (s.push c)

/-- A character behind a field. -/
def afterField (s : State) (c : Char) : Option State :=
  match c with
  | ',' => some (s.goTo s.current .fieldKey)
  | ' ' => some (s.goTo s.current .timestamp)
  | '\n' => some (s.endLine none)
  | _ => none

/-- A character of a field value, which a quote may open. -/
def valueChar (s : State) (key : String) (c : Char) : Option State :=
  if c = '"' ∧ s.word = [] then some (s.goTo s.current (.quoted key))
  else if c ∈ [',', ' ', '\n'] then
    (FieldReading.ofToken? s.word).bind fun r => afterField (s.addField key r) c
  else some (s.push c)

/-- A character of a timestamp. -/
def timestampChar (s : State) (c : Char) : Option State :=
  if c = '\n' then (DecimalNumber.signed? s.word).map fun n => s.endLine (some n)
  else some (s.push c)

/-- The reader takes in one character. -/
def step (s : State) (c : Char) : Option State :=
  match s.place with
  | .fieldValue key => valueChar s key c
  | .quoted key => quotedChar s key c
  | .fieldEnd => afterField s c
  | .timestamp => timestampChar s c
  | _ => nameChar s c

/-- The records of a text; none if it is not made of lines. -/
def read (text : List Char) : Option (List LineRecord) :=
  if text.isEmpty then some []
  else
    ((text ++ ['\n']).foldlM step (start [])).bind fun s =>
      if s = start s.records then some s.records else none

/-- A text that is not empty is read when its lines, with the end of the last one, lead from
the beginning of a line to the beginning of a line. -/
theorem read_eq_some {text : List Char} {records : List LineRecord} (hne : text ≠ [])
    (h : (text ++ ['\n']).foldlM step (start []) = some (start records)) :
    read text = some records := by
  have hempty : text.isEmpty = false := by simpa using hne
  simp only [read, hempty, Bool.false_eq_true, if_false, h, Option.bind_some]
  exact if_pos rfl

end LineReader

end SeriesClient
