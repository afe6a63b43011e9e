import SeriesClient.Value.Equality

set_option relaxedAutoImplicit false
set_option autoImplicit false

/-!
# Searching a document

The first value under a name, anywhere in a document, depth first: the entry of an object
comes before what its other entries hold.

## Main definitions

* `SeriesClient.Json.find?` — the value under a name.

## Design

An absent value counts as not found, so a search that meets one goes on with the next
branch. The object that holds it is not searched further.
-/

namespace SeriesClient.Json

mutual

/-- The first value under a name in a document. -/
def find? (key : Value) : Value → Option Value
  | .dict entries =>
    match OrderedMap.lookup key entries with
    | some .null => none
    | some v => some v
    | none => findValue? key entries
  | .list xs => findItem? key xs
  | _ => none

/-- The first value under a name in the items of an array. -/
def findItem? (key : Value) : List Value → Option Value
  | [] => none
  | x :: xs =>
    match find? key x with
    | some v => some v
    | none => findItem? key xs

/-- The first value under a name in what the entries of an object hold. -/
def findValue? (key : Value) : List (Value × Value) → Option Value
  | [] => none
  | (_, v) :: rest =>
    match find? key v with
    | some found => some found
    | none => findValue? key rest

end

end SeriesClient.Json
