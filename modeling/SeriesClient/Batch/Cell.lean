import SeriesClient.Batch.CellType
import SeriesClient.Fault
import SeriesClient.Text.Utf8
import SeriesClient.Value.Equality

set_option relaxedAutoImplicit false
set_option autoImplicit false

/-!
# Reading cells

A cell as it is stored — a count for the types that measure time — becomes a value.

## Main definitions

* `SeriesClient.CellFault` — a cell that has no value of its type, or is out of range.
* `SeriesClient.CellType.read` — reads one cell.

## Main results

* `SeriesClient.CellType.read_null` — an absent cell is absent.

## Design

Values measure time in whole microseconds. A finer count that is no whole number of
microseconds has no value.
-/

namespace SeriesClient

/-- Why a cell could not be read. -/
inductive CellFault where
  /-- The cell has no value of its type. -/
  | unreadable
  /-- The cell is beyond what dates and durations can hold. -/
  | overflow (fault : Fault)
  deriving Repr

namespace CellType

/-- The microseconds of a count, if they are a whole number. -/
def micros (unit : Precision) (count : Int) : Except CellFault Int :=
  match unit with
  | .nano => if count % 1000 = 0 then .ok (count / 1000) else .error .unreadable
  | unit => .ok (count * (unit.scale / 1000))

/-- A number of microseconds, unless it is too many for a duration. -/
def checkDuration (n : Int) : Except CellFault Int :=
  let days := Duration.days n
  if 2147483647 < days ∨ days < -2147483648 then .error (.overflow (.range .machineInteger))
  else if 999999999 < days ∨ days < -999999999 then .error (.overflow (.range (.duration days)))
  else .ok n

/-- A date, unless it is outside the years 1 to 9999. -/
def checkDate (days : Int) : Except CellFault Date :=
  let d := Date.ofDays days
  if d.year < 1 ∨ 9999 < d.year then .error (.overflow (.range .date)) else .ok d

/-- The offset that a zone is given as: hours and minutes with a sign. Names other than that
stand for universal time. -/
def zoneOffset (zone : String) : Int :=
  let digit (c : Char) : Nat := c.toNat - '0'.toNat
  match zone.toList with
  | sign :: a :: b :: rest =>
    let minutes := match rest.filter Char.isDigit with
      | [c, d] => digit c * 10 + digit d
      | _ => 0
    if (sign = '+' ∨ sign = '-') ∧ a.isDigit ∧ b.isDigit then
      let seconds : Int := ((digit a * 10 + digit b) * 60 + minutes : Nat) * 60
      if sign = '-' then -seconds else seconds
    else 0
  | _ => 0

/-- An instant as a date-time, shown in a zone if there is one. -/
def readInstant (unit : Precision) (zone : Option String) (count : Int) :
    Except CellFault DateTime := do
  let n ← checkDuration (← micros unit count)
  let shown := match zone with
    | some zone => DateTime.ofMicros n (some (zoneOffset zone))
    | none => DateTime.ofMicros n none
  let _ ← checkDate (n / DateTime.microsPerDay)
  let _ ← checkDate shown.date.toDays
  return shown

/-- The count that a cell is stored as. -/
def count : Value → Int
  | .int n => n
  | _ => 0

/-- A floating-point cell of a width, widened to a double. -/
def readFloating (width : Width) : Value → Value
  | .float x => .float (Format.double.convert (width.format.convert x))
  | v => v

/-- A text cell, stored as text or as bytes that should be text. -/
def readText : Value → Except CellFault Value
  | .bytes bs =>
    match Utf8.decode? bs with
    | some cs => .ok (.text (String.ofList cs))
    | none => .error .unreadable
  | v => .ok v

/-- A decimal cell, with all the places of its type. -/
def readDecimal (scale : Nat) : Value → Value
  | .decimal d => .decimal (d.rescale scale)
  | v => v

/-- The items of a list cell. -/
def itemsOf : Value → List Value
  | .list xs => xs
  | _ => []

/-- What a structure cell stores under a name. -/
def memberOf (v : Value) (name : String) : Value :=
  match v with
  | .dict entries => (OrderedMap.lookup (.text name) entries).getD .null
  | _ => .null

mutual

/-- Reads one cell that is not absent. -/
def readPresent : CellType → Value → Except CellFault Value
  | .integer .., v => .ok v
  | .floating width, v => .ok (readFloating width v)
  | .bool, v => .ok v
  | .text _, v => readText v
  | .binary, v => .ok v
  | .null, _ => .ok .null
  | .date fine, v => do
    return .date (← checkDate (if fine then count v / 86400000 else count v))
  | .time unit, v => do return .time (← readInstant unit none (count v)).time
  | .timestamp unit zone, v => do return .datetime (← readInstant unit zone (count v))
  | .duration unit, v => do return .duration (← checkDuration (← micros unit (count v)))
  | .decimal _ scale, v => .ok (readDecimal scale v)
  | .list item, v => do
    return .list (← (itemsOf v).mapM fun x => if x.isNull then .ok .null else readPresent item x)
  | .struct members, v => do return .dict (← readMembers members v)
  | .dictionary item, v => readPresent item v

/-- Reads the members of a structure; one that is not stored is absent. -/
def readMembers : Members → Value → Except CellFault (List (Value × Value))
  | .none, _ => .ok []
  | .member name type rest, v => do
    let stored := memberOf v name
    let first ← if stored.isNull then .ok .null else readPresent type stored
    let more ← readMembers rest v
    return (.text name, first) :: more

end

/-- Reads one cell. -/
def read (type : CellType) (v : Value) : Except CellFault Value :=
  if v.isNull then .ok .null else readPresent type v

/-- An absent cell is absent. -/
theorem read_null (type : CellType) : read type .null = .ok .null := rfl

end CellType

end SeriesClient
