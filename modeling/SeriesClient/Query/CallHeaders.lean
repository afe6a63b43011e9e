import SeriesClient.Http.Request
import SeriesClient.OrderedMap
import SeriesClient.Settings.ClientConfig
import SeriesClient.Text.LowerCase

set_option relaxedAutoImplicit false
set_option autoImplicit false

/-!
# Header fields of queries

The header fields that are sent with a query. Their names are in lower case. The fields of
the call come first, then those of the client that the call does not set.

## Main definitions

* `SeriesClient.CallHeaders` — the fields, with names in lower case.
* `SeriesClient.CallHeaders.ofConfig` — the fields of a client.
* `SeriesClient.CallHeaders.layer` — the fields of a call over those of a client.
* `SeriesClient.CallHeaders.sent` — the fields as they are sent.
-/

namespace SeriesClient

/-- Names in lower case with their values. -/
abbrev CallHeaders := OrderedMap Value Value

namespace CallHeaders

/-- A name in lower case; only texts and bytes have one. -/
def lowerName (v : Value) : Except Fault Value :=
  match v with
  | .text s => .ok (.text (lowerText s))
  | .bytes bs => .ok (.bytes (bs.map fun b => if 0x41 ≤ b ∧ b ≤ 0x5a then b + 0x20 else b))
  | v => .error (.mistyped (.noMember v.qualifiedName "lower"))

/-- Stores the entries of a list under their names in lower case; of several spellings of
one name the last one counts. -/
def storeLower : CallHeaders → List (Value × Value) → Except Fault CallHeaders
  | m, [] => .ok m
  | m, (k, v) :: rest => do storeLower (m.insert (← lowerName k) v) rest

/-- The text of an access token. A sequence stands for the values of a format with one
place. -/
def tokenText (token : Value) : Except Fault (List Char) :=
  match token with
  | .tuple [v] => .ok v.plain
  | .tuple _ => .error (.mistyped .formatTooMany)
  | v => .ok v.plain

/-- The fields of a client: its access token, and the fields of its configuration. -/
def ofConfig (config : ClientConfig) : Except Fault CallHeaders := do
  let base : CallHeaders ←
    if config.token.truthy then do
      let token ← tokenText config.token
      pure (.ofList [(.text "authorization", .text (String.ofList ("Bearer ".toList ++ token)))])
    else pure .empty
  if config.headers.truthy then storeLower base (← config.headers.dictEntries) else return base

/-- The fields of a call over those of a client. -/
def layer (client : CallHeaders) (call : List (Value × Value)) : Except Fault CallHeaders := do
  return client.entries.foldl (fun m e => m.insertNew e.1 e.2) (← storeLower .empty call)

/-- A name as it is sent. -/
def sentName (v : Value) : Except Fault String :=
  match v with
  | .text s => .ok s
  | v => .error (.mistyped (.noMember v.qualifiedName "encode"))

/-- The fields as they are sent: names with the plain texts of their values. -/
def sent (m : CallHeaders) : Except Fault HeaderList :=
  m.entries.mapM fun (k, v) => do return (← sentName k, v.toText)

end CallHeaders

end SeriesClient
