import SeriesClient.Timestamp

set_option relaxedAutoImplicit false
set_option autoImplicit false

/-!
# Layers of settings

A setting is taken from the innermost layer that sets it: the call, then the client, then
the library. Zero and false are settings like any other; an absent value and an empty text
are not.

## Main definitions

* `SeriesClient.Value.isUnset` — whether a value leaves a setting open.
* `SeriesClient.resolve` — the first of three layers that is set.
* `SeriesClient.Value.isPositive` — whether a number is greater than zero.
* `SeriesClient.Value.atLeast` — whether a value is no smaller than another.

## Main results

* `SeriesClient.resolve_of_set` — a setting of the call hides the others.
-/

namespace SeriesClient

namespace Value

/-- Whether a value leaves a setting open. -/
def isUnset : Value → Bool
  | null => true
  | text s => s.isEmpty
  | _ => false

/-- The value, or nothing if it counts as false. -/
def orNull (v : Value) : Value :=
  if v.truthy then v else null

/-- Whether a number is positive; only numbers can be. -/
def isPositive (v : Value) : Except Fault Bool :=
  match (int 0).less? v with
  | some b => .ok b
  | none => .error (.mistyped (.unordered ">" v.qualifiedName "int"))

/-- Whether the first value is at least as large as the second. -/
def atLeast (a b : Value) : Except Fault Bool :=
  match b.less? a with
  | some less => .ok (less || a == b)
  | none => .error (.mistyped (.unordered ">=" a.qualifiedName b.qualifiedName))

end Value

/-- The first of the values for the call, the client and the library that is set. -/
def resolve (call client library : Value) : Value :=
  if !call.isUnset then call
  else if !client.isUnset then client
  else library

/-- A setting of the call hides those of the client and the library. -/
theorem resolve_of_set {call client library : Value} (h : call.isUnset = false) :
    resolve call client library = call := by
  simp [resolve, h]

end SeriesClient
