import SeriesClient.Value.Convert

set_option relaxedAutoImplicit false
set_option autoImplicit false

/-!
# Query parameters

The named parameters of a query. Texts, integers, doubles and truth values can be sent.

## Main definitions

* `SeriesClient.Value.isSendable` — whether a value can be a parameter.
* `SeriesClient.checkParameters` — refuses the first parameter that cannot be sent.

## Main results

* `SeriesClient.checkEntries_eq_ok_iff` — parameters are accepted when all can be sent.
-/

namespace SeriesClient

/-- Whether a value can be sent as a parameter. -/
def Value.isSendable : Value → Bool
  | text _ | int _ | float _ | bool _ | sized (.floating .double _) => true
  | _ => false

/-- Refuses the first entry whose value cannot be sent. -/
def checkEntries : List (Value × Value) → Except Fault Unit
  | [] => .ok ()
  | (k, v) :: rest =>
    if v.isSendable then checkEntries rest
    else .error (.mistyped (.parameter k.toText v.typeName))

/-- Parameters are accepted exactly when all of them can be sent. -/
theorem checkEntries_eq_ok_iff (entries : List (Value × Value)) :
    checkEntries entries = .ok () ↔ ∀ e ∈ entries, e.2.isSendable = true := by
  induction entries with
  | nil => simp [checkEntries]
  | cons e rest ih =>
    obtain ⟨k, v⟩ := e
    by_cases h : v.isSendable = true <;> simp [checkEntries, h, ih]

/-- Refuses the first parameter that cannot be sent. -/
def checkParameters (params : Value) : Except Fault Unit :=
  if params.truthy then do checkEntries (← params.dictEntries) else .ok ()

end SeriesClient
