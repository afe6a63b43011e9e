import SeriesClient.Value.Equality
import SeriesClient.Value.Text

set_option relaxedAutoImplicit false
set_option autoImplicit false

/-!
# Conversions of values

Values as integers and doubles, and the items of a value.

## Main definitions

* `SeriesClient.Value.toInt` — truncates numbers and reads text.
* `SeriesClient.Value.toDouble` — rounds numbers and reads text.
* `SeriesClient.Value.toInteger` — truncates numbers, and refuses text.
* `SeriesClient.Value.toReal` — rounds numbers, and refuses text.
* `SeriesClient.Value.toMap` — a dictionary as a map.
* `SeriesClient.Value.items` — the items of a container or the characters of a text.

## Main results

* `SeriesClient.Value.toInt_int` — an integer is itself.
-/

namespace SeriesClient

/-- The whole part of a floating-point number. -/
def Floating.toInt (x : Floating) : Except Fault Int :=
  match x with
  | nan => .error (.invalid .integerOfNan)
  | infinite _ => .error (.range .integerOfInfinity)
  | finite .. => .ok x.truncate

/-- The whole part of a decimal. -/
def DecimalNumber.toInt (d : DecimalNumber) : Except Fault Int :=
  match d with
  | nan .. => .error (.invalid .integerOfDecimalNan)
  | infinite _ => .error (.range .integerOfDecimalInfinity)
  | finite .. => .ok d.truncate

/-- The double nearest to a decimal. -/
def DecimalNumber.toDouble (d : DecimalNumber) : Except Fault Floating :=
  match d with
  | nan _ true _ => .error (.invalid .doubleOfSignalingNan)
  | _ => .ok d.toFloating

/-- The double nearest to an integer, unless the integer is too large. -/
def integerToDouble (n : Int) : Except Fault Floating :=
  match Format.double.ofInt n with
  | .infinite _ => .error (.range .doubleOfInteger)
  | x => .ok x

namespace Value

/-- The whole part of a number; `none` for a value that is no number. -/
def wholePart? : Value → Option (Except Fault Int)
  | bool b => some (.ok (if b then 1 else 0))
  | int n => some (.ok n)
  | float x => some x.toInt
  | decimal d => some d.toInt
  | sized (.integer _ _ n) => some (.ok n)
  | sized (.floating _ x) => some x.toInt
  | sized (.bool b) => some (.ok (if b then 1 else 0))
  | ticks t =>
    match t.item with
    | .count n => some (.ok n)
    | _ => none
  | _ => none

/-- The double nearest to a number; `none` for a value that is no number. -/
def nearestDouble? : Value → Option (Except Fault Floating)
  | bool b => some (integerToDouble (if b then 1 else 0))
  | int n => some (integerToDouble n)
  | float x => some (.ok x)
  | decimal d => some d.toDouble
  | sized (.integer _ _ n) => some (integerToDouble n)
  | sized (.floating _ x) => some (.ok (Format.double.convert x))
  | sized (.bool b) => some (integerToDouble (if b then 1 else 0))
  | ticks t =>
    match t.item with
    | .count n => some (integerToDouble n)
    | _ => none
  | _ => none

/-- The name of the type that a conversion complains about. -/
def argumentType (v : Value) : String :=
  match v with
  | ticks t => t.item.typeName
  | v => v.qualifiedName

/-- A byte string as text, one character a byte. -/
def latinChars (bs : List UInt8) : List Char :=
  bs.map fun b => Char.ofNat b.toNat

/-- Whether all bytes are ASCII. -/
def isAscii (bs : List UInt8) : Bool :=
  bs.all (· < 0x80)

/-- The value as an integer: numbers are truncated, text is read. -/
def toInt (v : Value) : Except Fault Int :=
  match v.wholePart? with
  | some result => result
  | none =>
    match v with
    | text s =>
      match Literal.int? s.toList with
      | some n => .ok n
      | none => .error (.invalid (.integerLiteral v.display))
    | bytes bs =>
      match if isAscii bs then Literal.int? (latinChars bs) else Option.none with
      | some n => .ok n
      | none => .error (.invalid (.integerLiteral v.display))
    | _ => .error (.mistyped (.integerArgument v.argumentType))

/-- The value as a double: numbers are rounded, text is read. -/
def toDouble (v : Value) : Except Fault Floating :=
  match v.nearestDouble? with
  | some result => result
  | none =>
    match v with
    | text s =>
      match Literal.floating? s.toList with
      | some x => .ok x
      | none => .error (.invalid (.numberLiteral v.display))
    | bytes bs =>
      match if isAscii bs then Literal.floating? (latinChars bs) else Option.none with
      | some x => .ok x
      | none => .error (.invalid (.numberLiteral v.display))
    | _ => .error (.mistyped (.doubleArgument v.argumentType))

/-- The whole part of a number that is to be written as an integer. -/
def toInteger (v : Value) : Except Fault Int :=
  (v.wholePart?).getD (.error (.mistyped (.integerFormat v.qualifiedName)))

/-- The double nearest to a number that is to be written as one. -/
def toReal (v : Value) : Except Fault Floating :=
  (v.nearestDouble?).getD (.error (.mistyped (.realNumber v.qualifiedName)))

/-- The items of a container or the characters of a text. -/
def items : Value → Except Fault (List Value)
  | text s => .ok (s.toList.map fun c => text (String.ofList [c]))
  | bytes bs => .ok (bs.map fun b => int b.toNat)
  | list xs => .ok xs
  | tuple xs => .ok xs
  | dict entries => .ok (entries.map Prod.fst)
  | v => .error (.mistyped (.notIterable v.qualifiedName))

/-- The entries of a dictionary. -/
def dictEntries : Value → Except Fault (List (Value × Value))
  | dict entries => .ok entries
  | v => .error (.mistyped (.noMember v.qualifiedName "items"))

/-- The number of items of a container or of characters of a text. -/
def length (v : Value) : Except Fault Nat :=
  match v.items with
  | .ok xs => .ok xs.length
  | .error _ => .error (.mistyped (.noLength v.qualifiedName))

/-- An item as a key with its value: it has to have two items. -/
def toPair (index : Nat) (v : Value) : Except Fault (Value × Value) :=
  match v.items with
  | .ok [key, value] => .ok (key, value)
  | .ok xs => .error (.invalid (.pairLength index xs.length))
  | .error _ => .error (.mistyped (.pairSequence index))

/-- Stores items that are keys with their values, the first of which has the given index. -/
def storePairs (m : OrderedMap Value Value) (index : Nat) :
    List Value → Except Fault (OrderedMap Value Value)
  | [] => .ok m
  | v :: rest => do
    let (key, value) ← v.toPair index
    checkKey key
    storePairs (m.insert key value) (index + 1) rest

/-- A dictionary as a map; a sequence of keys with their values is taken for one, and a value
that counts as false for an empty one. -/
def toMap (v : Value) : Except Fault (OrderedMap Value Value) :=
  match v with
  | dict entries => .ok ⟨entries⟩
  | v => if v.truthy then do storePairs .empty 0 (← v.items) else .ok .empty

/-- An integer is itself. -/
theorem toInt_int (n : Int) : (int n).toInt = .ok n := rfl

end Value

end SeriesClient
