import SeriesClient.Client.Basic
import SeriesClient.Query.Channel
import SeriesClient.Query.Parameters
import SeriesClient.Query.Reader
import SeriesClient.Query.Ticket
import SeriesClient.Settings.QueryOptions

set_option relaxedAutoImplicit false
set_option autoImplicit false

/-!
# Queries

A query is checked before anything is sent. Then the connection is made unless there is
one, and the query is started; its results come as a stream.

## Main definitions

* `SeriesClient.QueryPlan` — a query that has passed all checks.
* `SeriesClient.QueryPlan.ofQuery` — checks a query.
* `SeriesClient.Client.query` — starts a query.

## Main results

* `SeriesClient.Client.query_of_closed` — a closed client starts no query.
-/

namespace SeriesClient

/-- A query that has passed all checks. -/
structure QueryPlan where
  /-- The ticket. -/
  ticket : Ticket
  /-- The header fields of the call. -/
  headers : OrderedMap Value Value
  /-- The settings of the remote call. -/
  callOptions : CallOptions

namespace QueryPlan

/-- Checks a query. -/
def ofQuery (config : ClientConfig) (options : QueryOptions) (query params : Value) :
    Except Fault QueryPlan := do
  if !query.truthy then throw (.invalid .queryRequired)
  let database := options.databaseOf config
  if !database.truthy then throw (.invalid .databaseRequired)
  checkParameters params
  let entries ← params.toMap
  let headers ← options.headersOf
  return ⟨⟨database, query, options.queryTypeOf, entries.entries⟩, headers, options.callOptionsOf⟩

/-- The call that starts a query, at a time that the clock shows. -/
def toCall (plan : QueryPlan) (config : ClientConfig) (client : CallHeaders) (now : Value) :
    Except Fault QueryCall := do
  let ticket ← plan.ticket.write
  let timeout ← plan.callOptions.effectiveTimeout config.queryTimeout now
  let headers ← (← CallHeaders.layer client plan.headers.entries).sent
  return ⟨ticket, timeout, headers⟩

end QueryPlan

/-- The stream of results that a script describes. -/
def ReaderScript.stream (script : ReaderScript) : QueryStream Reader Batch :=
  .new ⟨script.batches.map fun b => ⟨b, false⟩, script.failure, false⟩ (.new script.cancelFaults)

namespace Client

/-- Makes the connection for queries unless there is one. -/
def connect (c : Client) (net : Network) : Except Fault Unit × Client × Network :=
  if c.connected then (.ok (), c, net)
  else
    match Connection.ofConfig c.config with
    | .error fault => (.error fault, c, net)
    | .ok connection => (.ok (), { c with connected := true }, net.emit (.connect connection))

/-- Starts a query that has passed all checks. -/
def start (c : Client) (plan : QueryPlan) (now : Value) (net : Network) :
    Except Fault (QueryStream Reader Batch) × Client × Network :=
  match c.connect net with
  | (.error fault, c, net) => (.error fault, c, net)
  | (.ok (), c, net) =>
    match plan.toCall c.config c.callHeaders now with
    | .error fault => (.error fault, c, net)
    | .ok call =>
      let (script, net) := net.startQuery call
      match script.openFault with
      | some fault => (.error fault, c, net)
      | none => (.ok script.stream, c, net)

/-- Starts a query, at a time that the clock shows. -/
def query (c : Client) (options : QueryOptions) (query params now : Value) (net : Network) :
    Except Fault (QueryStream Reader Batch) × Client × Network :=
  match c.checkOpen.bind fun _ => QueryPlan.ofQuery c.config options query params with
  | .error fault => (.error fault, c, net)
  | .ok plan => c.start plan now net

/-- A closed client starts no query. -/
theorem query_of_closed (c : Client) (options : QueryOptions) (text params now : Value)
    (net : Network) (h : c.closed = true) :
    c.query options text params now net = (.error (.closed "Client"), c, net) := by
  simp [query, checkOpen, h, Except.bind]

end Client

end SeriesClient
