import SeriesClient.Batch.Decoder
import SeriesClient.Http.Request
import SeriesClient.Stream.Basic

set_option relaxedAutoImplicit false
set_option autoImplicit false

/-!
# The network

What the client sees of the world: the answers that are still to come, for requests and for
queries, and a record of everything that was sent.

## Main definitions

* `SeriesClient.Reply` — the answer to a request.
* `SeriesClient.ReaderScript` — the answer to a query.
* `SeriesClient.Event` — something that was sent.
* `SeriesClient.Network` — answers to come and events so far.

## Design

Answers are used up in order. Requests beyond the last one are answered with success and no
content, and queries beyond the last one with no batches.
-/

namespace SeriesClient

/-- An answer with a status. -/
structure Response where
  /-- The status code. -/
  status : Int
  /-- The header fields. -/
  headers : List (String × String)
  /-- The body. -/
  body : List UInt8
  deriving Repr

/-- Whether the status tells of success. -/
def Response.isSuccess (r : Response) : Bool :=
  decide (200 ≤ r.status) && decide (r.status < 300)

/-- What comes back for a request. -/
inductive Reply where
  /-- An answer. -/
  | response (r : Response)
  /-- The connection failed, in a way that has a name. -/
  | lost (kind message : String)
  /-- There were too many redirects. -/
  | redirects (message : String)

/-- What comes back for a query. -/
structure ReaderScript where
  /-- The batches. -/
  batches : List Batch
  /-- The failure after the last batch, if the stream does not end. -/
  failure : Option Fault
  /-- The failures of the first attempts to cancel. -/
  cancelFaults : List Fault
  /-- The failure to start, if the query does not start. -/
  openFault : Option Fault

/-- The settings of a connection for queries. -/
structure Connection where
  /-- The address. -/
  uri : String
  /-- Whether trusted certificates are given. -/
  rootCerts : Bool
  /-- Whether the certificate of the server goes unchecked. -/
  unverified : Bool
  /-- Further settings of the channel. -/
  options : List (String × Value)

/-- The start of a query. -/
structure QueryCall where
  /-- The ticket. -/
  ticket : String
  /-- The seconds it may take. -/
  timeout : Value
  /-- The header fields. -/
  headers : HeaderList

/-- Something that was sent. -/
inductive Event where
  /-- A request. -/
  | http (r : Request)
  /-- A connection for queries was made. -/
  | connect (c : Connection)
  /-- A query was started. -/
  | query (q : QueryCall)
  /-- A query was cancelled. -/
  | cancel
  /-- The connection for queries was closed. -/
  | disconnect

/-- Answers to come, and what happened so far. -/
structure Network where
  /-- The answers to requests. -/
  replies : List Reply
  /-- The answers to queries. -/
  readers : List ReaderScript
  /-- The failure to close the connections for requests, if closing them fails. -/
  closeFault : Option Fault
  /-- What was sent. -/
  events : List Event
  /-- The notices left behind. -/
  notices : List Notice

namespace Network

/-- Records an event. -/
def emit (net : Network) (e : Event) : Network := { net with events := net.events ++ [e] }

/-- Leaves a notice. -/
def note (net : Network) (n : Notice) : Network := { net with notices := net.notices ++ [n] }

/-- Success without content. -/
def noContent : Reply := .response ⟨204, [], []⟩

/-- Sends a request and takes the next answer. -/
def exchange (net : Network) (r : Request) : Reply × Network :=
  let net := net.emit (.http r)
  match net.replies with
  | [] => (noContent, net)
  | reply :: rest => (reply, { net with replies := rest })

/-- Starts a query and takes the next answer. -/
def startQuery (net : Network) (q : QueryCall) : ReaderScript × Network :=
  let net := net.emit (.query q)
  match net.readers with
  | [] => (⟨[], none, [], none⟩, net)
  | reader :: rest => (reader, { net with readers := rest })

end Network

end SeriesClient
