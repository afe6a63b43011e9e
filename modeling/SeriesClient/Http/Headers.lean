set_option relaxedAutoImplicit false
set_option autoImplicit false

/-!
# Header fields

The header fields of a response, in order. On the wire, names are compared without regard
to letter case and the values of a repeated name are joined; a table that was put together
by a caller may also be exact.

## Main definitions

* `SeriesClient.asciiLower` — lower case of the letters A to Z.
* `SeriesClient.Headers` — names with values, and how names are compared.
* `SeriesClient.Headers.get?` — the value of a name.

## Main results

* `SeriesClient.asciiLower_idem` — lower-casing twice changes nothing more.
-/

namespace SeriesClient

/-- The text with the letters A to Z in lower case. Header names are ASCII. -/
def asciiLower (s : String) : String :=
  String.ofList (s.toList.map Char.toLower)

/-- Lower-casing twice changes nothing more. -/
theorem asciiLower_idem (s : String) : asciiLower (asciiLower s) = asciiLower s := by
  simp only [asciiLower, String.toList_ofList, List.map_map]
  congr 1
  apply List.map_congr_left
  intro c _
  simp only [Function.comp]
  delta Char.toLower
  split
  · next upper =>
    have bounds : 65 ≤ c.val.toNat ∧ c.val.toNat ≤ 90 := upper
    have shifted : (c.val + ('a'.val - 'A'.val)).toNat = c.val.toNat + 32 := by
      rw [UInt32.toNat_add]
      show (c.val.toNat + 32) % 2 ^ 32 = _
      omega
    rw [dif_neg]
    intro again
    have : (c.val + ('a'.val - 'A'.val)).toNat ≤ 90 := again.2
    omega
  · next other => rfl

/-- Header fields in order. -/
structure Headers where
  /-- Names with values. -/
  entries : List (String × String)
  /-- Whether letter case is disregarded and repeated names are joined. -/
  folded : Bool
  deriving DecidableEq, Repr

namespace Headers

/-- No header fields. -/
def none : Headers := ⟨[], false⟩

/-- The value of a name: all values under it, joined, if letter case is disregarded, and
otherwise the last one. -/
def get? (h : Headers) (name : String) : Option String :=
  if h.folded then
    match (h.entries.filter fun e => asciiLower e.1 == asciiLower name).map Prod.snd with
    | [] => Option.none
    | values => some (String.intercalate ", " values)
  else ((h.entries.filter fun e => e.1 == name).getLast?).map Prod.snd

end Headers

end SeriesClient
