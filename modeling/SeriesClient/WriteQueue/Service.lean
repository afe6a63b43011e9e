import SeriesClient.WriteQueue.Dispatch

set_option relaxedAutoImplicit false
set_option autoImplicit false

/-!
# Queues over a client

A queue together with the client that writes its points. The writer works while somebody
waits for it: during a flush, and when the queue is closed.

## Main definitions

* `SeriesClient.QueueService` — a queue with its client.
* `SeriesClient.QueueService.append`, `SeriesClient.QueueService.appendAll` — add points.
* `SeriesClient.QueueService.flush` — writes everything that waits.
* `SeriesClient.QueueService.close` — writes everything, and ends the writer.
-/

namespace SeriesClient

/-- A queue with its client. -/
structure QueueService where
  /-- The queue. -/
  queue : WriteQueue Value Entry Value
  /-- The client, with a record of what happened. -/
  dispatch : Dispatch

/-- The number of entries of an argument. -/
def Entries.count : Entries → Except Fault Nat
  | many entries => .ok entries.length
  | one (.raw v) => v.length
  | one (.point _) => .error (.mistyped (.noLength "Point"))
  | one (.values _) => .error (.mistyped (.noLength "PointValues"))

namespace QueueService

/-- Adds points of a database, with the cookies given; without any, each point gets an absent
one. A fault in the cookies is found only once the points have been added. -/
def appendAll (s : QueueService) (points : Entries) (database cookies : Value) :
    Except Fault Unit × QueueService :=
  let store (points : List Entry) (cookies : List Value) : QueueService :=
    { s with queue := s.queue.store database points cookies }
  let given := if cookies.isNull then
      points.count.map fun n => Value.list (List.replicate n .null)
    else .ok cookies
  match given with
  | .error fault => (.error fault, s)
  | .ok cookies =>
    if !s.queue.running then (.error (.closed "WriteQueue"), s)
    else
      match database.checkKey, points.toList, cookies.items with
      | .error fault, _, _ => (.error fault, s)
      | .ok (), .error fault, _ => (.error fault, store [] [])
      | .ok (), .ok points, .error fault => (.error fault, store points [])
      | .ok (), .ok points, .ok cookies => (.ok (), store points cookies)

/-- Adds one point of a database, with its cookie. -/
def append (s : QueueService) (point : Entry) (database cookie : Value) :
    Except Fault Unit × QueueService :=
  s.appendAll (.many [point]) database (.list [cookie])

/-- Lets the writer work until it has nothing to do. Only answers of the server can be failures
that may pass. -/
def work (s : QueueService) : QueueService :=
  let failures := s.dispatch.network.replies.length
  let (queue, dispatch) := s.queue.settle Dispatch.outlet failures s.dispatch
  ⟨queue, dispatch⟩

/-- Writes everything that waits. -/
def flush (s : QueueService) : QueueService :=
  if s.queue.hasWriter then s.work else s

/-- Accepts no more points, writes everything that waits without further retries, and ends the
writer. -/
def close (s : QueueService) : QueueService :=
  if s.queue.hasWriter then
    let s := work { s with queue := s.queue.shut }
    { s with queue := { s.queue with hasWriter := false } }
  else s

/-- Opens a queue that was closed. -/
def start (s : QueueService) : Except Fault Unit × QueueService :=
  match s.queue.start with
  | .ok queue => (.ok (), { s with queue })
  | .error fault => (.error fault, s)

/-- Closes the client. -/
def closeClient (s : QueueService) : Except Fault Unit × QueueService :=
  let (result, client, network) := s.dispatch.client.close s.dispatch.network
  (result, { s with dispatch := Dispatch.collect { s.dispatch with client, network } })

end QueueService

end SeriesClient
