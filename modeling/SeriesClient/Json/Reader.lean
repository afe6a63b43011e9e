import SeriesClient.Value.Equality

set_option relaxedAutoImplicit false
set_option autoImplicit false

/-!
# Reading JSON

JSON documents as values: objects become dictionaries and arrays lists. Besides the
standard, the three literals for numbers that are not finite are read, integers may have
any size, and of a name that occurs twice in an object the last value counts, in the place
of the first. Texts consist of characters: half of a pair of code units is no character, and
is replaced.

## Main definitions

* `SeriesClient.Json.parse?` — reads a document.

## Design

The reader is a machine over a stack of open arrays and objects, so it needs no recursion
into the text: each step consumes a token, and the text that is left gets shorter.
-/

namespace SeriesClient.Json

/-- A token of a document. -/
inductive Token where
  | openArray | closeArray | openObject | closeObject | comma | colon
  | scalar (v : Value)

/-- White space between tokens. -/
def isSpace (c : Char) : Bool :=
  c = ' ' || c = '\t' || c = '\n' || c = '\r'

/-- The value of a hexadecimal digit. -/
def hexDigit? (c : Char) : Option Nat :=
  if '0' ≤ c ∧ c ≤ '9' then some (c.toNat - '0'.toNat)
  else if 'a' ≤ c ∧ c ≤ 'f' then some (c.toNat - 'a'.toNat + 10)
  else if 'A' ≤ c ∧ c ≤ 'F' then some (c.toNat - 'A'.toNat + 10)
  else none

/-- The number that four hexadecimal digits stand for. -/
def hex4? (a b c d : Char) : Option Nat := do
  let a ← hexDigit? a
  let b ← hexDigit? b
  let c ← hexDigit? c
  let d ← hexDigit? d
  return ((a * 16 + b) * 16 + c) * 16 + d

/-- The character that a letter after a backslash stands for. -/
def simpleEscape? : Char → Option Char
  | '"' => some '"'
  | '\\' => some '\\'
  | '/' => some '/'
  | 'b' => some '\x08'
  | 'f' => some '\x0c'
  | 'n' => some '\n'
  | 'r' => some '\r'
  | 't' => some '\t'
  | _ => none

/-- Whether a code unit is the first of a pair. -/
def isHighUnit (n : Nat) : Bool := 0xd800 ≤ n && n < 0xdc00

/-- Whether a code unit is the second of a pair. -/
def isLowUnit (n : Nat) : Bool := 0xdc00 ≤ n && n < 0xe000

/-- The characters of a text up to its closing quote, and what follows the quote. A code
unit that lacks its partner is read as the replacement character, since no character stands for
it alone. -/
def textBody (read : List Char) : List Char → Option (List Char × List Char)
  | [] => none
  | '"' :: rest => some (read.reverse, rest)
  | '\\' :: 'u' :: a :: b :: c :: d :: '\\' :: 'u' :: e :: f :: g :: h :: rest =>
    match hex4? a b c d with
    | none => none
    | some n =>
      match isHighUnit n, hex4? e f g h with
      | true, some m =>
        if isLowUnit m then
          textBody (Char.ofNat (0x10000 + (n - 0xd800) * 0x400 + (m - 0xdc00)) :: read) rest
        else textBody ('\uFFFD' :: read) ('\\' :: 'u' :: e :: f :: g :: h :: rest)
      | _, _ =>
        textBody ((if isHighUnit n || isLowUnit n then '\uFFFD' else Char.ofNat n) :: read)
          ('\\' :: 'u' :: e :: f :: g :: h :: rest)
  | '\\' :: 'u' :: a :: b :: c :: d :: rest =>
    match hex4? a b c d with
    | none => none
    | some n =>
      textBody ((if isHighUnit n || isLowUnit n then '\uFFFD' else Char.ofNat n) :: read) rest
  | '\\' :: c :: rest =>
    match simpleEscape? c with
    | some c => textBody (c :: read) rest
    | none => none
  | c :: rest => if c.toNat < 0x20 then none else textBody (c :: read) rest
termination_by cs => cs.length

/-- The leading digits of a text and what follows them. -/
def digits (cs : List Char) : List Char × List Char :=
  (cs.takeWhile Char.isDigit, cs.dropWhile Char.isDigit)

/-- A fraction: a point with at least one digit after it. -/
def fraction (cs : List Char) : List Char × List Char :=
  match cs with
  | '.' :: rest =>
    let (run, after) := digits rest
    if run.isEmpty then ([], cs) else ('.' :: run, after)
  | _ => ([], cs)

/-- An exponent: its letter, an optional sign and at least one digit. -/
def exponent (cs : List Char) : List Char × List Char :=
  match cs with
  | e :: rest =>
    if e = 'e' ∨ e = 'E' then
      let (sign, rest') := match rest with
        | '+' :: r => (['+'], r)
        | '-' :: r => (['-'], r)
        | r => ([], r)
      let (run, after) := digits rest'
      if run.isEmpty then ([], cs) else (e :: sign ++ run, after)
    else ([], cs)
  | [] => ([], cs)

/-- The integer part of a number: one zero, or digits that do not begin with zero. -/
def integerPart (cs : List Char) : List Char × List Char :=
  match cs with
  | '0' :: rest => (['0'], rest)
  | cs => digits cs

/-- A number: an integer unless it has a fraction or an exponent. -/
def number? (cs : List Char) : Option (Value × List Char) :=
  let (sign, rest) := match cs with
    | '-' :: r => (['-'], r)
    | r => ([], r)
  let (whole, rest) := integerPart rest
  let (part, rest) := fraction rest
  let (power, rest) := exponent rest
  if whole.isEmpty then none
  else if part.isEmpty && power.isEmpty then
    (DecimalNumber.signed? (sign ++ whole)).map fun n => (.int n, rest)
  else (Literal.floating? (sign ++ whole ++ part ++ power)).map fun x => (.float x, rest)

/-- The literals, with what they stand for. -/
def literals : List (List Char × Value) :=
  [("null".toList, .null), ("true".toList, .bool true), ("false".toList, .bool false),
   ("NaN".toList, .float .nan), ("Infinity".toList, .float (.infinite false)),
   ("-Infinity".toList, .float (.infinite true))]

/-- A literal at the beginning of a text. -/
def literal? (cs : List Char) : Option (Value × List Char) :=
  (literals.find? fun l => l.1.isPrefixOf cs).map fun l => (l.2, cs.drop l.1.length)

/-- The first token of a text that does not begin with white space. -/
def token? (cs : List Char) : Option (Token × List Char) :=
  match cs with
  | '[' :: rest => some (.openArray, rest)
  | ']' :: rest => some (.closeArray, rest)
  | '{' :: rest => some (.openObject, rest)
  | '}' :: rest => some (.closeObject, rest)
  | ',' :: rest => some (.comma, rest)
  | ':' :: rest => some (.colon, rest)
  | '"' :: rest =>
    (textBody [] rest).map fun (s, rest) => (.scalar (.text (String.ofList s)), rest)
  | cs =>
    match literal? cs with
    | some (v, rest) => some (.scalar v, rest)
    | none => (number? cs).map fun (v, rest) => (.scalar v, rest)

/-- The tokens of a text; `none` if it cannot be cut into tokens. -/
def tokens? : Nat → List Char → Option (List Token)
  | 0, _ => some []
  | fuel + 1, cs =>
    match cs.dropWhile isSpace with
    | [] => some []
    | cs =>
      match token? cs with
      | none => none
      | some (t, rest) => (tokens? fuel rest).map (t :: ·)

/-- An array or object that is still open, with what it holds so far. -/
inductive Frame where
  /-- An array; its items, last first. -/
  | array (items : List Value)
  /-- An object; its entries, and the name whose value is being read. -/
  | object (entries : OrderedMap Value Value) (name : Value)

/-- What may come next. -/
inductive Expect where
  /-- A value; `first` right after an opening bracket, where the array may also end. -/
  | value (first : Bool)
  /-- A name; `first` right after an opening brace, where the object may also end. -/
  | name (first : Bool)
  /-- The colon after a name. -/
  | colon
  /-- A comma or the end of what is open. -/
  | next
  deriving DecidableEq

/-- The state of the reader. -/
structure State where
  /-- What is open, innermost first. -/
  frames : List Frame
  /-- What may come next. -/
  expect : Expect
  /-- The document, once it is complete. -/
  result : Option Value

/-- A complete value goes into what is open, or is the document. -/
def State.put (s : State) (v : Value) : State :=
  match s.frames with
  | [] => { s with expect := .next, result := some v }
  | .array items :: rest => { s with frames := .array (v :: items) :: rest, expect := .next }
  | .object entries name :: rest =>
    { s with frames := .object (entries.insert name v) name :: rest, expect := .next }

/-- Closes what is innermost. -/
def State.close (s : State) : State :=
  match s.frames with
  | .array items :: rest => { s with frames := rest }.put (.list items.reverse)
  | .object entries _ :: rest => { s with frames := rest }.put (.dict entries.entries)
  | [] => s

/-- The state after a token, if the token may come. -/
def State.step (s : State) (t : Token) : Option State :=
  match s.expect, t with
  | .value _, .openArray => some { s with frames := .array [] :: s.frames, expect := .value true }
  | .value _, .openObject =>
    some { s with frames := .object .empty .null :: s.frames, expect := .name true }
  | .value _, .scalar v => some (s.put v)
  | .value true, .closeArray => some s.close
  | .name _, .scalar (.text name) =>
    match s.frames with
    | .object entries _ :: rest =>
      some { s with frames := .object entries (.text name) :: rest, expect := .colon }
    | _ => none
  | .name true, .closeObject => some s.close
  | .colon, .colon => some { s with expect := .value false }
  | .next, .comma =>
    match s.frames with
    | .array _ :: _ => some { s with expect := .value false }
    | .object .. :: _ => some { s with expect := .name false }
    | [] => none
  | .next, .closeArray =>
    match s.frames with
    | .array _ :: _ => some s.close
    | _ => none
  | .next, .closeObject =>
    match s.frames with
    | .object .. :: _ => some s.close
    | _ => none
  | _, _ => none

/-- The document that a sequence of tokens forms. -/
def ofTokens? (ts : List Token) : Option Value :=
  match ts.foldlM State.step ⟨[], .value false, none⟩ with
  | some s => if s.frames.isEmpty then s.result else none
  | none => none

/-- Reads a document. -/
def parse? (cs : List Char) : Option Value :=
  (tokens? (cs.length + 1) cs).bind ofTokens?

end SeriesClient.Json
