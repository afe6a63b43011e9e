import SeriesClient.Value.Text
import SeriesClient.Value.Equality

set_option relaxedAutoImplicit false
set_option autoImplicit false

/-!
# Writing JSON

Values as JSON documents in ASCII. Characters outside ASCII are written as code units of
sixteen bits, and numbers that are not finite as the literals that the reader knows.

## Main definitions

* `SeriesClient.Json.write` — a value as a document.
-/

namespace SeriesClient.Json

/-- The four lower-case hexadecimal digits of a code unit, with its escape. -/
def unit (n : Nat) : List Char :=
  '\\' :: 'u' :: Quoted.hex 4 n

/-- One character of a text. -/
def escape (c : Char) : List Char :=
  match c with
  | '"' => ['\\', '"']
  | '\\' => ['\\', '\\']
  | '\n' => ['\\', 'n']
  | '\r' => ['\\', 'r']
  | '\t' => ['\\', 't']
  | '\x08' => ['\\', 'b']
  | '\x0c' => ['\\', 'f']
  | c =>
    let n := c.toNat
    if 0x20 ≤ n ∧ n < 0x7f then [c]
    else if n < 0x10000 then unit n
    else unit (0xd800 + (n - 0x10000) / 0x400) ++ unit (0xdc00 + (n - 0x10000) % 0x400)

/-- A text between quotes. -/
def quoted (cs : List Char) : List Char :=
  '"' :: cs.flatMap escape ++ ['"']

/-- A double; the numbers that are not finite have names. -/
def double : Floating → List Char
  | .nan => "NaN".toList
  | .infinite negative => Floating.signText negative ++ "Infinity".toList
  | x => x.text .double

/-- The name of an entry: text, or the text of a number, truth value or absent value. -/
def name : Value → Except Fault (List Char)
  | .text s => .ok (quoted s.toList)
  | .int n => .ok (quoted (intDigits n))
  | .float x => .ok (quoted (double x))
  | .sized (.floating .double x) => .ok (quoted (double x))
  | .bool b => .ok (quoted (if b then "true".toList else "false".toList))
  | .null => .ok (quoted "null".toList)
  | v => .error (.mistyped (.documentName v.typeName))

mutual

/-- A value as a document. -/
def write : Value → Except Fault (List Char)
  | .null => .ok "null".toList
  | .bool b => .ok (if b then "true".toList else "false".toList)
  | .int n => .ok (intDigits n)
  | .float x => .ok (double x)
  | .sized (.floating .double x) => .ok (double x)
  | .text s => .ok (quoted s.toList)
  | .list xs => do return '[' :: separated [',', ' '] (← writeAll xs) ++ [']']
  | .tuple xs => do return '[' :: separated [',', ' '] (← writeAll xs) ++ [']']
  | .dict entries => do return '{' :: separated [',', ' '] (← writeEntries entries) ++ ['}']
  | v => .error (.mistyped (.document v.typeName))

/-- The items of an array. -/
def writeAll : List Value → Except Fault (List (List Char))
  | [] => .ok []
  | x :: xs => do
    let first ← write x
    let rest ← writeAll xs
    return first :: rest

/-- The entries of an object. -/
def writeEntries : List (Value × Value) → Except Fault (List (List Char))
  | [] => .ok []
  | (k, v) :: rest => do
    let key ← name k
    let first ← write v
    let more ← writeEntries rest
    return (key ++ ':' :: ' ' :: first) :: more

end

end SeriesClient.Json
