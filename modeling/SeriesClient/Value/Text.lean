import SeriesClient.Text.Quoted
import SeriesClient.Value.Basic

set_option relaxedAutoImplicit false
set_option autoImplicit false

/-!
# Values as text

Two texts for each value: the one in which messages show it, with quotes around text and
the name of the type around less common values, and the plain one.

## Main definitions

* `SeriesClient.Value.display` — the text that shows a value.
* `SeriesClient.Value.toText` — the plain text of a value.

## Main results

* `SeriesClient.Value.plain_text` — the plain text of a text is the text itself.
-/

namespace SeriesClient

/-- The name of a type around the text of a value. -/
def wrapped (name : String) (inner : List Char) : List Char :=
  name.toList ++ '(' :: inner ++ [')']

/-- Texts with separators between them. -/
def separated (separator : List Char) (items : List (List Char)) : List Char :=
  List.intercalate separator items

/-- Numbers with commas between them. -/
def numberList (ns : List Int) : List Char :=
  separated [',', ' '] (ns.map intDigits)

/-- The plain text of a truth value. -/
def boolText (b : Bool) : List Char :=
  if b then "True".toList else "False".toList

namespace TimeOfDay

/-- The numbers of a clock reading; microseconds and then seconds are left out when they,
and all that follows, are zero. -/
def numbers (t : TimeOfDay) : List Int :=
  let tail : List Int :=
    if t.micro ≠ 0 then [(t.second : Int), t.micro]
    else if t.second ≠ 0 then [(t.second : Int)]
    else []
  [(t.hour : Int), t.minute] ++ tail

/-- The digits of a clock reading; microseconds are left out when they are zero. -/
def plain (t : TimeOfDay) : List Char :=
  paddedDigits 2 t.hour ++ ':' :: paddedDigits 2 t.minute ++ ':' :: paddedDigits 2 t.second
    ++ (if t.micro = 0 then [] else '.' :: paddedDigits 6 t.micro)

end TimeOfDay

/-- The digits of a date. -/
def Date.plain (d : Date) : List Char :=
  paddedDigits 4 d.year.natAbs ++ '-' :: paddedDigits 2 d.month ++ '-' :: paddedDigits 2 d.day

namespace Duration

/-- The parts of a duration that are not zero, by name. -/
def shown (n : Int) : List Char :=
  let parts := [("days", days n), ("seconds", seconds n), ("microseconds", micros n)]
  let named := (parts.filter (·.2 ≠ 0)).map fun (name, k) => name.toList ++ '=' :: intDigits k
  wrapped "datetime.timedelta" (if named.isEmpty then ['0'] else separated [',', ' '] named)

/-- The days and the clock reading of a duration. -/
def plain (n : Int) : List Char :=
  let dayCount := days n
  let rest := (n % DateTime.microsPerDay).toNat
  let total := rest / 1000000
  let dayText :=
    if dayCount = 0 then []
    else intDigits dayCount ++ (if dayCount.natAbs = 1 then " day, " else " days, ").toList
  dayText ++ natDigits (total / 3600) ++ ':' :: paddedDigits 2 (total / 60 % 60)
    ++ ':' :: paddedDigits 2 (total % 60)
    ++ (if rest % 1000000 = 0 then [] else '.' :: paddedDigits 6 (rest % 1000000))

end Duration

namespace DateTime

/-- An offset from universal time, in hours and minutes, and in seconds and microseconds if there
are any. -/
def offsetText (offset : Offset) : List Char :=
  let micros := offset.micros.natAbs
  let n := micros / 1000000
  (if offset.micros < 0 then '-' else '+') :: paddedDigits 2 (n / 3600)
    ++ ':' :: paddedDigits 2 (n / 60 % 60)
    ++ (if micros % 60000000 = 0 then [] else ':' :: paddedDigits 2 (n % 60))
    ++ (if micros % 1000000 = 0 then [] else '.' :: paddedDigits 6 (micros % 1000000))

/-- The zone of an offset, as messages show it. -/
def zoneShown (offset : Offset) : List Char :=
  if offset.micros = 0 then "datetime.timezone.utc".toList
  else wrapped "datetime.timezone" (Duration.shown offset.micros)

/-- The numbers of a date-time, with the zone if there is one. -/
def shown (t : DateTime) : List Char :=
  let numbers := [t.date.year, (t.date.month : Int), (t.date.day : Int)] ++ t.time.numbers
  let zone := match t.offset with
    | none => []
    | some offset => ", tzinfo=".toList ++ zoneShown offset
  wrapped "datetime.datetime" (numberList numbers ++ zone)

/-- The digits of a date-time. -/
def plain (t : DateTime) : List Char :=
  t.date.plain ++ ' ' :: t.time.plain ++ (t.offset.map offsetText).getD []

end DateTime

namespace Sized

/-- The plain text of a number of a fixed width. -/
def plain : Sized → List Char
  | integer _ _ n => intDigits n
  | floating width x => x.text width.format
  | bool b => boolText b

/-- The text that shows a number of a fixed width. -/
def shown : Sized → List Char
  | bool b => "np.".toList ++ boolText b ++ ['_']
  | n => wrapped ("np." ++ n.typeName) n.plain

end Sized

namespace Value

/-- The text that shows an instant in ticks. The unit is added for hours, whose digits
alone would leave it open. -/
def ticksShown (t : Ticks) : List Char :=
  wrapped "np.datetime64" ('\'' :: t.text ++ '\''
    :: (if t.unit = .hour then [',', '\'', 'h', '\''] else []))

/-- The text that shows an interned text. -/
def internedShown (large : Bool) (s : Option String) : List Char :=
  (if large then "<pyarrow.LargeStringScalar: " else "<pyarrow.StringScalar: ").toList
    ++ (match s with
        | some s => Quoted.text s.toList
        | none => "None".toList) ++ ['>']

mutual

/-- The text that shows a value. -/
def shown : Value → List Char
  | null => "None".toList
  | bool b => boolText b
  | int n => intDigits n
  | float x => x.text .double
  | text s => Quoted.text s.toList
  | bytes bs => Quoted.bytes bs
  | decimal d => wrapped "Decimal" ('\'' :: d.text ++ ['\''])
  | sized n => n.shown
  | datetime t => t.shown
  | date d => wrapped "datetime.date" (numberList [d.year, d.month, d.day])
  | time t => wrapped "datetime.time" (numberList t.numbers)
  | duration n => Duration.shown n
  | ticks t => ticksShown t
  | interned large s => internedShown large s
  | list xs => '[' :: separated [',', ' '] (shownAll xs) ++ [']']
  | tuple [x] => '(' :: shown x ++ [',', ')']
  | tuple xs => '(' :: separated [',', ' '] (shownAll xs) ++ [')']
  | dict entries => '{' :: separated [',', ' '] (shownEntries entries) ++ ['}']
  | precision p => "<WritePrecision ".toList ++ p.symbol.toList ++ ['>']
  | foreign _ s => s.toList

/-- The texts that show the items of a list. -/
def shownAll : List Value → List (List Char)
  | [] => []
  | x :: xs => shown x :: shownAll xs

/-- The texts that show keys with their values. -/
def shownEntries : List (Value × Value) → List (List Char)
  | [] => []
  | (k, v) :: rest => (shown k ++ ':' :: ' ' :: shown v) :: shownEntries rest

end

/-- The plain text of a value. -/
def plain : Value → List Char
  | text s => s.toList
  | decimal d => d.text
  | sized n => n.plain
  | datetime t => t.plain
  | date d => d.plain
  | time t => t.plain
  | duration n => Duration.plain n
  | ticks t => t.text
  | interned _ (some s) => s.toList
  | interned _ none => "None".toList
  | v => v.shown

/-- The text that shows a value, as a string. -/
def display (v : Value) : String := String.ofList v.shown

/-- The plain text of a value, as a string. -/
def toText (v : Value) : String := String.ofList v.plain

/-- The plain text of a text is the text itself. -/
theorem plain_text (s : String) : (text s).plain = s.toList := by
  simp [plain]

end Value

end SeriesClient
