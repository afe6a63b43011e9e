import SeriesClient.Fault
import SeriesClient.Notice

set_option relaxedAutoImplicit false
set_option autoImplicit false

/-!
# Query streams

A lazy, closeable sequence of query results. Batches are pulled from a source one at a
time, and either handed out as they are or decoded into items. Every batch is tracked from
its arrival until it is released.

## Main definitions

* `SeriesClient.Source` — the batches still to come, and how they end.
* `SeriesClient.Source.next` — the next batch of a source.
* `SeriesClient.Handler` — what a stream does with its source and its batches.
* `SeriesClient.QueryStream` — the state of a stream.
* `SeriesClient.QueryStream.next` — the next item.
* `SeriesClient.QueryStream.close` — releases everything.

## Main results

* `SeriesClient.QueryStream.next_of_closed` — a closed stream has no further item.
* `SeriesClient.QueryStream.close_of_closed` — closing again does nothing.

## Design

Closing may happen in the middle of `next`, when the source or the decoder of a stream
closes the stream that they serve. The iteration in progress then goes on until it hands
out an item, and only the calls after it find the stream closed. A failure ends the
iteration for good, but leaves the stream open until it is closed.

Batches are told apart by the order of their arrival.
-/

namespace SeriesClient

/-- A batch as the source delivers it. -/
structure Delivery (β : Type) where
  /-- The batch. -/
  batch : β
  /-- Whether the stream is closed by somebody else before the batch arrives. -/
  closing : Bool

/-- The batches still to come. -/
structure Source (β : Type) where
  /-- The batches in order. -/
  pending : List (Delivery β)
  /-- The failure of every pull after the last batch; without one, the source ends. -/
  failure : Option Fault
  /-- Whether the source has ended or has been closed. -/
  closed : Bool

/-- The next batch of a source, if it has one. A source that has reached its end is closed. -/
def Source.next {β : Type} (source : Source β) : Except Fault (Option β) × Source β :=
  if source.closed then (.ok none, source)
  else
    match source.pending, source.failure with
    | d :: rest, _ => (.ok (some d.batch), { source with pending := rest })
    | [], some fault => (.error fault, source)
    | [], none => (.ok none, { source with closed := true })

/-- One step of a decoder inside a batch. -/
inductive DecodeStep (ι : Type) where
  /-- Hands out an item. -/
  | item (i : ι)
  /-- Fails. -/
  | fail (fault : Fault)
  /-- Closes the stream, and goes on. -/
  | close

/-- How batches become items. -/
inductive Decoding (ω β ι : Type) where
  /-- Each batch is an item. -/
  | raw (item : β → ι)
  /-- Each batch is decoded in a number of steps. -/
  | steps (count : β → Nat) (step : β → Nat → ω → DecodeStep ι × List Notice × ω)

/-- What a stream does with its source and its batches; `ω` is the state of everything that
the stream does not hold itself. -/
structure Handler (ω β ι : Type) where
  /-- Closes the source. -/
  closeSource : Source β → ω → Except Fault Unit × Source β × ω
  /-- Releases a batch. -/
  releaseBatch : β → ω → Except Fault Unit × ω
  /-- Is called once for each batch that is done with, and once for the stream. -/
  callback : ω → Except Fault Unit × ω
  /-- Turns batches into items. -/
  decoding : Decoding ω β ι

/-- Where the iteration of a stream stands. -/
inductive Position (β : Type) where
  /-- Before the next batch. -/
  | between
  /-- Inside a batch, before one of its steps. -/
  | within (number : Nat) (batch : β) (step : Nat)
  /-- At its end, or after a failure. -/
  | finished

/-- The state of a stream. -/
structure QueryStream (ω β : Type) where
  /-- The source. -/
  source : Source β
  /-- The batches that have arrived and are not released, with their numbers. -/
  acquired : List (Nat × β)
  /-- How many batches have arrived. -/
  arrived : Nat
  /-- Whether the stream has been closed. -/
  closed : Bool
  /-- Where the iteration stands. -/
  position : Position β
  /-- The notices left behind so far. -/
  notices : List Notice
  /-- The state of everything else. -/
  world : ω

/-- What a call of `next` comes to. -/
inductive Outcome (ι : Type) where
  /-- An item. -/
  | item (i : ι)
  /-- There are no more items. -/
  | stop
  /-- A failure. -/
  | fail (fault : Fault)

namespace QueryStream

variable {ω β ι : Type}

/-- A stream that has not been read from. -/
def new (source : Source β) (world : ω) : QueryStream ω β :=
  ⟨source, [], 0, false, .between, [], world⟩

/-- Closes the source, a second time if the first fails; yields both failures if both
fail. -/
def closeSource (h : Handler ω β ι) (s : QueryStream ω β) : List Fault × QueryStream ω β :=
  match h.closeSource s.source s.world with
  | (.ok (), source, world) => ([], { s with source, world })
  | (.error first, source, world) =>
    let notice := Notice.warn ("Closing query stream failed, retrying: " ++ first.message)
    let s := { s with source, world, notices := s.notices ++ [notice] }
    match h.closeSource s.source s.world with
    | (.ok (), source, world) => ([], { s with source, world })
    | (.error second, source, world) => ([first, second], { s with source, world })

/-- Releases all tracked batches in the order of their arrival; yields the failures. -/
def releaseAll (h : Handler ω β ι) : List (Nat × β) → ω → List Fault × ω
  | [], world => ([], world)
  | (_, b) :: rest, world =>
    match h.releaseBatch b world with
    | (.ok (), world) => releaseAll h rest world
    | (.error fault, world) =>
      let (faults, world) := releaseAll h rest world
      (fault :: faults, world)

/-- Closes a stream without touching its iteration, as when the iteration itself does. -/
def closeWithin (h : Handler ω β ι) (s : QueryStream ω β) :
    Except Fault Unit × QueryStream ω β :=
  if s.closed then (.ok (), s)
  else
    let (sourceFaults, s) := closeSource h { s with closed := true }
    match h.callback s.world with
    | (.error fault, world) => (.error fault, { s with world })
    | (.ok (), world) =>
      let (batchFaults, world) := releaseAll h s.acquired world
      let s := { s with acquired := [], world }
      match sourceFaults ++ batchFaults with
      | [] => (.ok (), s)
      | faults => (.error (.streamClose faults), s)

/-- Closes a stream and ends its iteration. -/
def close (h : Handler ω β ι) (s : QueryStream ω β) : Except Fault Unit × QueryStream ω β :=
  if s.closed then (.ok (), s) else closeWithin h { s with position := .finished }

/-- Ends the iteration. -/
def finish (s : QueryStream ω β) : QueryStream ω β := { s with position := .finished }

/-- Removes a batch from those that are tracked, if it is one of them. -/
def untrack? (number : Nat) (acquired : List (Nat × β)) : Option (List (Nat × β)) :=
  if acquired.any (·.1 == number) then some (acquired.filter fun e => !(e.1 == number)) else none

/-- Releases a batch whose items have all been handed out. -/
def release (h : Handler ω β ι) (number : Nat) (b : β) (s : QueryStream ω β) :
    Except Fault Unit × QueryStream ω β :=
  match untrack? number s.acquired with
  | none => (.error (.invalid .batchNotTracked), s)
  | some acquired =>
    match h.callback s.world with
    | (.error fault, world) => (.error fault, { s with acquired, world })
    | (.ok (), world) =>
      let (result, world) := h.releaseBatch b world
      (result, { s with acquired, world })

/-- Runs the remaining steps of a batch up to the next item; without an outcome, the batch
has no more items and has been released. -/
def runSteps (h : Handler ω β ι) (step : β → Nat → ω → DecodeStep ι × List Notice × ω)
    (number : Nat) (b : β) : Nat → Nat → QueryStream ω β → Option (Outcome ι) × QueryStream ω β
  | 0, _, s =>
    match release h number b s with
    | (.ok (), s) => (none, { s with position := .between })
    | (.error fault, s) => (some (.fail fault), s.finish)
  | count + 1, i, s =>
    let (result, notices, world) := step b i s.world
    let s := { s with world, notices := s.notices ++ notices }
    match result with
    | .item x => (some (.item x), { s with position := .within number b (i + 1) })
    | .fail fault => (some (.fail fault), s.finish)
    | .close =>
      match closeWithin h s with
      | (.ok (), s) => runSteps h step number b count (i + 1) s
      | (.error fault, s) => (some (.fail fault), s.finish)

/-- The end of the source: a decoding stream closes itself. -/
def atEnd (h : Handler ω β ι) (s : QueryStream ω β) : Outcome ι × QueryStream ω β :=
  let s := { s.finish with source := { s.source with closed := true } }
  match h.decoding with
  | .raw _ => (.stop, s)
  | .steps .. =>
    match closeWithin h s with
    | (.ok (), s) => (.stop, s)
    | (.error fault, s) => (.fail fault, s)

/-- Pulls batches, of those still pending, up to the next item. -/
def pull (h : Handler ω β ι) : List (Delivery β) → QueryStream ω β → Outcome ι × QueryStream ω β
  | [], s =>
    match s.source.closed, s.source.failure with
    | false, some fault => (.fail fault, s.finish)
    | _, _ => atEnd h s
  | d :: rest, s =>
    if s.source.closed then atEnd h s
    else
      match if d.closing then closeWithin h s else (.ok (), s) with
      | (.error fault, s) => (.fail fault, s.finish)
      | (.ok (), s) =>
        let number := s.arrived
        let s := { s with
          source := { s.source with pending := rest }
          acquired := s.acquired ++ [(number, d.batch)]
          arrived := number + 1 }
        match h.decoding with
        | .raw item => (.item (item d.batch), { s with position := .between })
        | .steps count step =>
          match runSteps h step number d.batch (count d.batch) 0 s with
          | (some outcome, s) => (outcome, s)
          | (none, s) => pull h rest s

/-- The next item. -/
def next (h : Handler ω β ι) (s : QueryStream ω β) : Outcome ι × QueryStream ω β :=
  if s.closed then (.stop, s)
  else
    match s.position with
    | .finished => (.stop, s)
    | .between => pull h s.source.pending s
    | .within number b i =>
      match h.decoding with
      | .raw _ => (.stop, s)
      | .steps count step =>
        match runSteps h step number b (count b - i) i s with
        | (some outcome, s) => (outcome, s)
        | (none, s) => pull h s.source.pending s

-- The empty sum is the numeral zero, also where the zero of a monoid is in scope.
attribute [local instance (2000)] Zero.ofOfNat0 in
/-- An upper bound on the number of items still to come. -/
def remaining (h : Handler ω β ι) (s : QueryStream ω β) : Nat :=
  let stepsOf (b : β) : Nat := match h.decoding with
    | .raw _ => 1
    | .steps count _ => count b
  let current := match s.position with
    | .within _ b _ => stepsOf b
    | _ => 0
  current + (s.source.pending.map fun d => stepsOf d.batch).sum

/-- Up to `bound` items, as far as the stream goes. -/
def takeItems (h : Handler ω β ι) :
    Nat → QueryStream ω β → Except Fault (List ι) × QueryStream ω β
  | 0, s => (.ok [], s)
  | bound + 1, s =>
    match next h s with
    | (.item i, s) =>
      let (result, s) := takeItems h bound s
      (result.map (i :: ·), s)
    | (.stop, s) => (.ok [], s)
    | (.fail fault, s) => (.error fault, s)

/-- All items that are left. -/
def drain (h : Handler ω β ι) (s : QueryStream ω β) : Except Fault (List ι) × QueryStream ω β :=
  takeItems h (s.remaining h + 1) s

/-- Runs a call on the stream and closes the stream after it; a failure to close takes the
place of the result. -/
def thenClose {α : Type} (h : Handler ω β ι) (call : QueryStream ω β → α × QueryStream ω β)
    (s : QueryStream ω β) : Except Fault α × QueryStream ω β :=
  let (result, s) := call s
  match close h s with
  | (.ok (), s) => (.ok result, s)
  | (.error fault, s) => (.error fault, s)

/-- A closed stream has no further item. -/
theorem next_of_closed (h : Handler ω β ι) (s : QueryStream ω β) (closed : s.closed = true) :
    next h s = (.stop, s) := by
  simp [next, closed]

/-- Closing again does nothing. -/
theorem close_of_closed (h : Handler ω β ι) (s : QueryStream ω β) (closed : s.closed = true) :
    close h s = (.ok (), s) := by
  simp [close, closed]

end QueryStream

end SeriesClient
