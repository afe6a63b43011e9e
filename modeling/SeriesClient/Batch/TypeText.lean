import SeriesClient.Batch.CellType
import SeriesClient.Number.Literal

set_option relaxedAutoImplicit false
set_option autoImplicit false

/-!
# A notation for types of cells

Types can be given as text: a name, with what it is made of in brackets. Units stand in
square brackets, with the zone of an instant after a comma; the size of decimals stands in
round ones; and the types inside a type stand in angle brackets, the members of a structure
with their names before a colon.

No other module reads types from texts: a column comes with its type. The notation is for the
descriptions of batches that a program is run on.

## Main definitions

* `SeriesClient.CellType.parts` — the parts of a text between commas outside brackets.
* `SeriesClient.CellType.ofText?` — the type that a text denotes.
-/

namespace SeriesClient.CellType

/-- Whether a character opens a bracket. -/
def isOpening (c : Char) : Bool := c = '<' || c = '[' || c = '('

/-- Whether a character closes a bracket. -/
def isClosing (c : Char) : Bool := c = '>' || c = ']' || c = ')'

/-- The parts of a text between commas outside brackets, inside so many brackets, after the
start of a part. -/
def partsFrom (depth : Nat) (start : List Char) : List Char → List (List Char)
  | [] => [start]
  | c :: rest =>
    if c = ',' ∧ depth = 0 then start :: partsFrom 0 [] rest
    else
      partsFrom (if isOpening c then depth + 1 else if isClosing c then depth - 1 else depth)
        (start ++ [c]) rest

/-- The parts of a text between commas outside brackets. -/
def parts (cs : List Char) : List (List Char) := partsFrom 0 [] cs

/-- What stands between the first opening bracket and the last character. -/
def inside (cs : List Char) : List Char :=
  ((cs.dropWhile fun c => !isOpening c).drop 1).dropLast

/-- The types that have no parts. -/
def plain : List (String × CellType) :=
  [("bool", .bool), ("string", .text .plain), ("large_string", .text .large),
   ("string_view", .text .view), ("binary", .binary), ("null", .null),
   ("float16", .floating .half), ("float32", .floating .single), ("float64", .floating .double),
   ("date32", .date false), ("date64", .date true)]

/-- The integers of a name that ends in their number of bits. -/
def integer? (cs : List Char) : Option CellType :=
  let (signed, digits) := if cs.take 1 = ['u'] then (false, cs.drop 4) else (true, cs.drop 3)
  (Literal.int? digits).map fun bits => .integer signed bits.toNat

/-- The members of a structure, if all have a type. -/
def membersOf? (type? : List Char → Option CellType) : List (List Char) → Option Members
  | [] => some .none
  | part :: rest => do
    let type ← type? ((part.dropWhile (· ≠ ':')).drop 1)
    return .member (String.ofList (part.takeWhile (· ≠ ':'))) type (← membersOf? type? rest)

/-- The type that a text denotes, if its brackets are not nested deeper than the bound. -/
def ofChars? : Nat → List Char → Option CellType
  | 0, _ => none
  | bound + 1, cs =>
    let name := String.ofList (cs.takeWhile fun c => !isOpening c)
    let items := parts (inside cs)
    let unit := (items.head?).bind fun s => Precision.ofName? (String.ofList s)
    let number (i : Nat) : Option Nat := (items[i]?).bind fun s => (Literal.int? s).map Int.toNat
    match name with
    | "time32" | "time64" => unit.map .time
    | "timestamp" => unit.map fun unit => .timestamp unit ((items[1]?).map String.ofList)
    | "duration" => unit.map .duration
    | "decimal128" => do return .decimal (← number 0) (← number 1)
    | "list" => (ofChars? bound (inside cs)).map .list
    | "dictionary" => (ofChars? bound (inside cs)).map .dictionary
    | "struct" => (membersOf? (ofChars? bound) items).map .struct
    | name =>
      match plain.find? fun e => e.1 == name with
      | some (_, type) => some type
      | none => integer? cs

/-- The type that a text denotes. -/
def ofText? (s : String) : Option CellType := ofChars? (s.toList.length + 1) s.toList

end SeriesClient.CellType
