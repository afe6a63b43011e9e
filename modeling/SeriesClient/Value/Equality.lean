import SeriesClient.Fault
import SeriesClient.OrderedMap
import SeriesClient.Value.Basic

set_option relaxedAutoImplicit false
set_option autoImplicit false

/-!
# Equality, keys and order of values

When two values are equal, which values may be keys, and which have an order. Numbers are
equal when they stand for the same number, whatever their types; a plain number is rounded
to the width of a narrower floating-point number before the two are compared.

## Main definitions

* `SeriesClient.Value.same` — equality, as an instance of `BEq`.
* `SeriesClient.Value.checkKey` — refuses values that cannot be keys.
* `SeriesClient.Value.less?` — the order, where there is one.
* `SeriesClient.sortEntries` — entries in ascending order of their keys.

## Main results

* `SeriesClient.Value.same_text` — texts are equal when they are the same text.
-/

namespace SeriesClient

namespace Value

/-- The width that a value is compared in, if it is a floating-point number of a fixed
width. -/
def comparisonWidth? : Value → Option Width
  | sized (.floating width _) => some width
  | _ => none

/-- Whether a value is an integer, truth value or double of no fixed width. -/
def isPlainNumber : Value → Bool
  | bool _ | int _ | float _ => true
  | _ => false

/-- A number, rounded to a width. -/
def roundTo (width : Width) : Extended → Extended
  | .rational r => (width.format.round r).toExtended
  | x => x

/-- The two numbers in the form in which they are compared. -/
def alignNumbers (a b : Value) (x y : Extended) : Extended × Extended :=
  match a.comparisonWidth?, b.comparisonWidth? with
  | some width, none => (x, if b.isPlainNumber then roundTo width y else y)
  | none, some width => (if a.isPlainNumber then roundTo width x else x, y)
  | _, _ => (x, y)

/-- Equality of two values that are no containers. -/
def sameScalar (a b : Value) : Bool :=
  match a.number?, b.number? with
  | some x, some y =>
    let (x, y) := alignNumbers a b x y
    x.equal y
  | none, none =>
    match a, b with
    | null, null => true
    | text s, text t => s == t
    | bytes s, bytes t => s == t
    | datetime s, datetime t =>
      if s.offset.isSome == t.offset.isSome then s.toMicros == t.toMicros else false
    | date s, date t => s == t
    | time s, time t => s == t
    | duration s, duration t => s == t
    | ticks s, ticks t => s.count.isSome && t.count.isSome && s.toNanos == t.toNanos
    | interned large s, interned large' t => large == large' && s == t
    | precision p, precision q => p == q
    | _, _ => false
  | _, _ => false

mutual

/-- Equality of values. -/
def same : Value → Value → Bool
  | list xs, list ys => sameAll xs ys
  | tuple xs, tuple ys => sameAll xs ys
  | dict xs, dict ys => xs.length == ys.length && within xs ys
  | a, b => sameScalar a b

/-- Equality of the items of two lists. -/
def sameAll : List Value → List Value → Bool
  | [], [] => true
  | x :: xs, y :: ys => same x y && sameAll xs ys
  | _, _ => false

/-- Whether each entry of the first list has an equal one in the second. -/
def within : List (Value × Value) → List (Value × Value) → Bool
  | [], _ => true
  | (k, v) :: rest, ys => ys.any (fun e => same k e.1 && same v e.2) && within rest ys

end

instance : BEq Value := ⟨same⟩

/-- Texts are equal when they are the same text. -/
theorem same_text (s t : String) : (text s == text t) = (s == t) := by
  simp [BEq.beq, same, sameScalar, number?]

mutual

/-- Why a value cannot be part of a key, by the first value inside it that cannot. -/
def unhashable? : Value → Option WrongType
  | list _ => some (.unhashable "list")
  | dict _ => some (.unhashable "dict")
  | tuple xs => unhashableAny? xs
  | decimal (.nan _ true _) => some .signalingKey
  | foreign "PointValues" _ => some (.unhashable "PointValues")
  | foreign "Point" _ => some (.unhashable "Point")
  | _ => none

/-- Why the values of a list cannot be parts of a key, by the first one that cannot. -/
def unhashableAny? : List Value → Option WrongType
  | [] => none
  | x :: xs =>
    match unhashable? x with
    | some cause => some cause
    | none => unhashableAny? xs

end

/-- Refuses a value that cannot be a key. -/
def checkKey (v : Value) : Except Fault Unit :=
  match v.unhashable? with
  | some cause => .error (.mistyped cause)
  | none => .ok ()

/-- A value can be a key if nothing inside it cannot. -/
theorem checkKey_eq_ok_iff {v : Value} : v.checkKey = .ok () ↔ v.unhashable? = none := by
  unfold checkKey
  cases v.unhashable? with
  | none => exact iff_of_true rfl rfl
  | some cause => exact iff_of_false nofun nofun

/-- The order by code points. -/
def lessText : List Char → List Char → Bool
  | _, [] => false
  | [], _ :: _ => true
  | a :: as, b :: bs => if a = b then lessText as bs else decide (a.toNat < b.toNat)

mutual

/-- Whether the first value comes before the second; `none` where they have no order. -/
def less? : Value → Value → Option Bool
  | text s, text t => some (lessText s.toList t.toList)
  | bytes s, bytes t => some (lessText (s.map fun b => Char.ofNat b.toNat)
      (t.map fun b => Char.ofNat b.toNat))
  | tuple xs, tuple ys => lessAll? xs ys
  | list xs, list ys => lessAll? xs ys
  | a, b =>
    match a.number?, b.number? with
    | some x, some y => some (x.lt y)
    | _, _ => none

/-- The order of lists: by the first items that differ, and a shorter list before a longer
one that it begins. -/
def lessAll? : List Value → List Value → Option Bool
  | _, [] => some false
  | [], _ :: _ => some true
  | x :: xs, y :: ys => if same x y then lessAll? xs ys else less? x y

end

end Value

/-- The first two neighbours in a list that have no order. -/
def unorderedPair? : List Value → Option (Value × Value)
  | a :: b :: rest =>
    match b.less? a with
    | none => some (b, a)
    | some _ => unorderedPair? (b :: rest)
  | _ => none

/-- Entries in ascending order of their keys; those of equal keys stay in place. -/
def sortEntries (entries : List (Value × Value)) : Except Fault (List (Value × Value)) :=
  match unorderedPair? (entries.map Prod.fst) with
  | some (a, b) => .error (.mistyped (.unordered "<" a.qualifiedName b.qualifiedName))
  | none => .ok (entries.mergeSort fun a b => !((b.1.less? a.1).getD false))

end SeriesClient
