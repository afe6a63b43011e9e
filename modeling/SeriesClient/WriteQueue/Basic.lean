import SeriesClient.WriteQueue.Lot
import SeriesClient.WriteQueue.Retry

set_option relaxedAutoImplicit false
set_option autoImplicit false

/-!
# Write queues

The state of a queue of points that a writer works off. Points are accepted while the queue
is open. The writer takes everything that waits, and deals with one chunk after the other:
it tries to write the chunk, pauses and tries again while the failure may pass, and then
either confirms each of its points or drops the chunk as a whole.

## Main definitions

* `SeriesClient.QueueSettings` — the settings of a queue.
* `SeriesClient.WriterPhase` — what the writer is doing.
* `SeriesClient.WriteQueue` — the state of a queue.
* `SeriesClient.WriteQueue.accept` — adds points.
* `SeriesClient.WriteQueue.start`, `SeriesClient.WriteQueue.shut` — the life of a queue.
-/

namespace SeriesClient

/-- The settings of a queue. -/
structure QueueSettings where
  /-- The seconds for which points are gathered. -/
  flushInterval : Value := .float (Format.double.ofInt 1)
  /-- The greatest number of points in a chunk. -/
  batchSize : Value := .int 1000
  /-- How long to wait between attempts. -/
  backoff : Backoff := ⟨.float (Format.double.ofInt 5), .float (Format.double.ofInt 300)⟩
  /-- How often a chunk is tried again; without it, as often as needed. -/
  maxRetries : Value := .null

namespace QueueSettings

/-- The settings with one replaced, if there is one of that name. -/
def set? (s : QueueSettings) (name : String) (v : Value) : Option QueueSettings :=
  match name with
  | "flush_interval" => some { s with flushInterval := v }
  | "batch_size" => some { s with batchSize := v }
  | "retry_interval" => some { s with backoff := { s.backoff with interval := v } }
  | "max_retry_interval" => some { s with backoff := { s.backoff with limit := v } }
  | "max_retries" => some { s with maxRetries := v }
  | _ => none

/-- Whether a chunk that has been tried again this often is not tried any more. -/
def isExhausted (s : QueueSettings) (retries : Nat) : Except Fault Bool :=
  if s.maxRetries.isNull then .ok false else (Value.int retries).atLeast s.maxRetries

end QueueSettings

/-- What the writer is doing. -/
inductive WriterPhase (δ α κ : Type) where
  /-- It holds nothing, and waits for points. -/
  | idle
  /-- It is about to write a chunk, which has been tried again a number of times. -/
  | attempting (retries : Nat) (chunk : Chunk δ α κ) (rest : List (Chunk δ α κ))
  /-- It waits before it tries a chunk again that failed. -/
  | pausing (retries : Nat) (chunk : Chunk δ α κ) (fault : Fault) (rest : List (Chunk δ α κ))
  /-- It confirms the points of a chunk that was written. -/
  | confirming (points : List (α × κ)) (rest : List (Chunk δ α κ))
  /-- It has failed, and let go of everything it held. -/
  | failed
  /-- It has ended, after the queue was closed and emptied. -/
  | finished

/-- The writer before the first of some chunks. -/
def WriterPhase.ofChunks {δ α κ : Type} : List (Chunk δ α κ) → WriterPhase δ α κ
  | [] => .idle
  | chunk :: rest => .attempting 0 chunk rest

/-- The state of a queue. -/
structure WriteQueue (δ α κ : Type) where
  /-- The settings. -/
  settings : QueueSettings
  /-- The points that wait. -/
  queued : OrderedMap δ (Lot α κ)
  /-- Whether points are accepted. -/
  running : Bool
  /-- Whether retries are to be abandoned. -/
  stopping : Bool
  /-- Whether there is a writer that nobody has waited for. -/
  hasWriter : Bool
  /-- What the writer is doing. -/
  phase : WriterPhase δ α κ

namespace WriteQueue

variable {δ α κ : Type}

/-- An open queue without points, with a writer. -/
def new (settings : QueueSettings) : WriteQueue δ α κ :=
  ⟨settings, .empty, true, false, true, .idle⟩

/-- How many points wait for each database. -/
def sizes (q : WriteQueue δ α κ) : List (δ × Nat) :=
  q.queued.entries.map fun (database, lot) => (database, lot.points.length)

/-- Adds points of a database, with their cookies. -/
def store [BEq δ] (q : WriteQueue δ α κ) (database : δ) (points : List α) (cookies : List κ) :
    WriteQueue δ α κ :=
  let lot := (q.queued.find? database).getD .empty
  { q with queued := q.queued.insert database (lot.add points cookies) }

/-- Adds points, unless the queue has been closed. -/
def accept [BEq δ] (q : WriteQueue δ α κ) (database : δ) (points : List α) (cookies : List κ) :
    Except Fault (WriteQueue δ α κ) :=
  if q.running then .ok (q.store database points cookies) else .error (.closed "WriteQueue")

/-- Opens a queue that has no writer, and gives it one. -/
def start (q : WriteQueue δ α κ) : Except Fault (WriteQueue δ α κ) :=
  if q.hasWriter then .error .alreadyRunning
  else .ok { q with running := true, stopping := false, hasWriter := true, phase := .idle }

/-- Accepts no more points. -/
def refuse (q : WriteQueue δ α κ) : WriteQueue δ α κ := { q with running := false }

/-- Abandons retries. -/
def abandon (q : WriteQueue δ α κ) : WriteQueue δ α κ := { q with stopping := true }

/-- Accepts no more points, and abandons retries. -/
def shut (q : WriteQueue δ α κ) : WriteQueue δ α κ := q.refuse.abandon

end WriteQueue

end SeriesClient
