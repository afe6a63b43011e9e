import SeriesClient.Client.Basic
import SeriesClient.Point.LineProtocol
import SeriesClient.Settings.WriteOptions

set_option relaxedAutoImplicit false
set_option autoImplicit false

/-!
# Writes

A write is planned before anything is sent: the settings are resolved, the entries are
encoded, and the request is put together. A plan is then sent with a single request.

## Main definitions

* `SeriesClient.WritePlan` — the request of a write.
* `SeriesClient.WritePlan.ofEntries` — the plan of a write.
* `SeriesClient.Client.write` — writes a sequence of entries.
* `SeriesClient.Client.writeOne` — writes an entry that may be absent.

## Main results

* `SeriesClient.Client.write_of_closed` — a closed client writes nothing.

## Design

Writes that need not be durable when they return go to an endpoint of their own, which
spells out the unit of timestamps and which not all servers have.
-/

namespace SeriesClient

/-- The request of a write. -/
structure WritePlan where
  /-- The lines. -/
  body : String
  /-- Whether the lines are compressed. -/
  compressed : Bool
  /-- The header fields. -/
  headers : OrderedMap Value Value
  /-- The database. -/
  database : Value
  /-- The unit of timestamps. -/
  precision : Precision
  /-- The organization. -/
  organization : Value
  /-- Whether the write returns before it is durable. -/
  noSync : Bool

namespace WritePlan

/-- The path of the request. -/
def path (plan : WritePlan) : String :=
  if plan.noSync then "/api/v3/write_lp" else "/api/v2/write"

/-- The parameters of the request. -/
def params (plan : WritePlan) : List (Value × Value) :=
  if plan.noSync then
    [(.text "db", plan.database), (.text "precision", .text plan.precision.longName),
      (.text "no_sync", .text "true")]
  else
    [(.text "bucket", plan.database), (.text "org", plan.organization),
      (.text "precision", .text plan.precision.shortName)]

/-- The header fields of a request: the kind of the body, the fields of the call, and the
compression. -/
def headersOf (call : OrderedMap Value Value) (compressed : Bool) : OrderedMap Value Value :=
  let fields : OrderedMap Value Value :=
    (OrderedMap.ofList [(Value.text "Content-Type", Value.text "text/plain; charset=utf-8")]).merge
      call
  if compressed then fields.insert (.text "Content-Encoding") (.text "gzip") else fields

/-- The plan of a write; none if there are no lines. -/
def ofEntries (config : ClientConfig) (options : WriteOptions) (data : Entries) :
    Except Fault (Option WritePlan) := do
  let database := options.databaseOf config
  if !database.truthy then throw (.invalid .databaseRequired)
  let precision ← options.precisionOf config
  let tags ← options.defaultTagsOf config
  let lines ← Entry.encode (.precision precision) (.dict tags.entries) (← data.toList)
  if lines.isEmpty then return none
  let call ← options.headersOf
  let body := String.ofList lines
  let compressed ←
    (Value.int body.utf8ByteSize).atLeast (options.gzipThresholdOf config)
  return some ⟨body, compressed, headersOf call compressed, database, precision,
    config.organization, (options.noSyncOf config).truthy⟩

end WritePlan

namespace Client

/-- The failure of a write. A server that has no endpoint for writes that need not be durable
answers that the method is not allowed. -/
def writeFault (noSync : Bool) : Fault → Fault
  | .http 405 reason headers =>
    if noSync then .noSync 405 reason headers true else .http 405 reason headers
  | fault => fault

/-- Sends the request of a write. -/
def send (c : Client) (plan : WritePlan) (net : Network) : Except Fault Unit × Network :=
  let (result, net) := c.session.request "POST" plan.path plan.headers.entries plan.body
    plan.compressed plan.params net
  match result with
  | .ok _ => (.ok (), net)
  | .error fault => (.error (writeFault plan.noSync fault), net)

/-- Writes a sequence of entries. -/
def write (c : Client) (options : WriteOptions) (data : Entries) (net : Network) :
    Except Fault Unit × Network :=
  match c.checkOpen with
  | .error fault => (.error fault, net)
  | .ok () =>
    match WritePlan.ofEntries c.config options data with
    | .error fault => (.error fault, net)
    | .ok none => (.ok (), net.note (.warn "No data to write, please check your input data."))
    | .ok (some plan) => c.send plan net

/-- A closed client writes nothing. -/
theorem write_of_closed (c : Client) (options : WriteOptions) (data : Entries) (net : Network)
    (h : c.closed = true) : c.write options data net = (.error (.closed "Client"), net) := by
  simp [write, checkOpen, h]

/-- Writes an entry that may be absent. -/
def writeOne (c : Client) (options : WriteOptions) (e : Entry) (net : Network) :
    Except Fault Unit × Network :=
  match e with
  | .raw .null => (.ok (), net)
  | e => c.write options (.many [e]) net

end Client

end SeriesClient
