import SeriesClient.Http.Address
import SeriesClient.Value.Convert

set_option relaxedAutoImplicit false
set_option autoImplicit false

/-!
# Requests

A request as it goes out: method, path, parameters, header fields and body.

## Main definitions

* `SeriesClient.HeaderList` — header fields in the order in which they are sent.
* `SeriesClient.HeaderList.override` — the fields of a call over those of the client.
* `SeriesClient.HeaderList.sorted` — the fields by name.
* `SeriesClient.paramEntries` — parameters as they are written into an address.
* `SeriesClient.Request` — a request.

## Design

Two fields of one layer whose names differ in letter case alone are both sent; a field of a
call replaces all fields of the client that have its name in some letter case.
-/

namespace SeriesClient

/-- The name and version that the client goes by. -/
def userAgent : String := "simple-influxdb3/0.1.0"

/-- Header fields in the order in which they are sent. -/
abbrev HeaderList := List (String × String)

namespace HeaderList

/-- Whether some field has a name, in whatever letter case. -/
def hasName (fields : HeaderList) (name : String) : Bool :=
  fields.any fun f => asciiLower f.1 == asciiLower name

/-- The fields of a call over those of the client. -/
def override (client call : HeaderList) : HeaderList :=
  client.filter (fun f => !call.hasName f.1) ++ call

/-- The fields by name, with names in lower case; fields of one name stay in order. -/
def sorted (fields : HeaderList) : HeaderList :=
  (fields.map fun (name, v) => (asciiLower name, v)).mergeSort fun a b => decide (a.1 ≤ b.1)

/-- A text of a header field, which has to be ASCII. -/
def fieldText (s : String) : Except Fault String :=
  if s.toList.all fun c => c.toNat < 0x80 then .ok s else .error .encoding

/-- A value of a header field. -/
def fieldValue (v : Value) : Except Fault String :=
  match v with
  | .text s => fieldText s
  | .bytes bs => .ok (String.ofList (Value.latinChars bs))
  | v => .error (.mistyped (.headerValue v.qualifiedName))

/-- A name of a header field. -/
def fieldName (v : Value) : Except Fault String :=
  match v with
  | .text s => fieldText s
  | .bytes bs => .ok (String.ofList (Value.latinChars bs))
  | v => .error (.mistyped (.noMember v.qualifiedName "encode"))

/-- The header fields of a dictionary. -/
def ofEntries : List (Value × Value) → Except Fault HeaderList
  | [] => .ok []
  | (k, v) :: rest => do
    let name ← fieldName k
    let text ← fieldValue v
    let more ← ofEntries rest
    return (name, text) :: more

end HeaderList

/-- A single parameter value as text. -/
def paramText : Value → String
  | .bool b => if b then "true" else "false"
  | .null => ""
  | v => v.toText

/-- Parameters as they are written into an address; a list stands for several values under
one name. -/
def paramEntries (params : List (Value × Value)) : List (String × String) :=
  params.flatMap fun (k, v) =>
    match v with
    | .list xs => xs.map fun x => (k.toText, paramText x)
    | .tuple xs => xs.map fun x => (k.toText, paramText x)
    | v => [(k.toText, paramText v)]

/-- A request as it goes out. -/
structure Request where
  /-- The method. -/
  method : String
  /-- The full path. -/
  path : String
  /-- The parameters. -/
  params : List (String × String)
  /-- The header fields. -/
  headers : HeaderList
  /-- The body before compression. -/
  body : String
  /-- Whether the body is compressed. -/
  compressed : Bool
  deriving DecidableEq, Repr

end SeriesClient
