import SeriesClient.Stream.Basic

set_option relaxedAutoImplicit false
set_option autoImplicit false

/-!
# Feeds

The answer to a query comes through a reader of the transport, chunk by chunk, until the reader
reports its end. A source stands before the reader: it hands out the batches, and cancels the reader
when it is closed.

## Main definitions

* `SeriesClient.TransportFault` — a failure of the transport.
* `SeriesClient.FeedChunk` — what a reader comes up with.
* `SeriesClient.Feed` — a reader.
* `SeriesClient.FeedSource` — the source before a reader.
* `SeriesClient.FeedSource.next`, `SeriesClient.FeedSource.close` — the next batch, and the end.
* `SeriesClient.FeedScript` — a reader whose chunks are known beforehand.

## Main results

* `SeriesClient.FeedSource.next_of_closed`, `SeriesClient.FeedSource.close_of_closed` — a closed
  source leaves its reader alone.

## Design

One flag stands for both ends of a source: its reader has reported the end, or has been cancelled.
A failure of either kind leaves the source open.
-/

namespace SeriesClient

/-- A failure of the transport. -/
structure TransportFault where
  /-- Its name. -/
  kind : String
  /-- Its message. -/
  text : String
  deriving DecidableEq, Repr

/-- A failure on the wire that was raised from one of the transport. -/
def TransportFault.toFault (f : TransportFault) : Fault := .wire f.text (some f.kind)

/-- What a reader comes up with when it is asked for more. -/
inductive FeedChunk (β : Type) where
  /-- A batch. -/
  | data (b : β)
  /-- A failure. -/
  | failure (f : TransportFault)
  /-- The end. -/
  | ended

/-- A reader of the transport; `φ` is its state. -/
structure Feed (φ β : Type) where
  /-- Asks for more. -/
  read : φ → FeedChunk β × φ
  /-- Breaks the answer off. -/
  cancel : φ → Except Fault Unit × φ

/-- The source before a reader. -/
structure FeedSource (φ : Type) where
  /-- The state of the reader. -/
  reader : φ
  /-- Whether the reader has reported its end or has been cancelled. -/
  closed : Bool

namespace FeedSource

variable {φ β : Type}

/-- The next batch. -/
def next (f : Feed φ β) (s : FeedSource φ) : Except Fault (Option β) × FeedSource φ :=
  if s.closed then (.ok none, s)
  else
    match f.read s.reader with
    | (.data b, reader) => (.ok (some b), { s with reader })
    | (.failure fault, reader) => (.error fault.toFault, { s with reader })
    | (.ended, reader) => (.ok none, ⟨reader, true⟩)

/-- Closes the source; it counts as closed once its reader has been cancelled. -/
def close (f : Feed φ β) (s : FeedSource φ) : Except Fault Unit × FeedSource φ :=
  if s.closed then (.ok (), s)
  else
    match f.cancel s.reader with
    | (.ok (), reader) => (.ok (), ⟨reader, true⟩)
    | (.error fault, reader) => (.error fault, { s with reader })

/-- A closed source reads nothing. -/
theorem next_of_closed (f : Feed φ β) (s : FeedSource φ) (h : s.closed = true) :
    next f s = (.ok none, s) := by
  simp [next, h]

/-- A closed source cancels nothing. -/
theorem close_of_closed (f : Feed φ β) (s : FeedSource φ) (h : s.closed = true) :
    close f s = (.ok (), s) := by
  simp [close, h]

end FeedSource

/-- A reader whose chunks are known beforehand. -/
structure FeedScript (β : Type) where
  /-- The batches. -/
  batches : List β
  /-- The failure of every attempt after the last batch; without one, the reader ends. -/
  failure : Option TransportFault
  /-- The failures of the first attempts to cancel. -/
  cancelFaults : List Fault

/-- How a reader whose chunks are known goes on. -/
def FeedScript.feed {β : Type} : Feed (FeedScript β) β where
  read script :=
    match script.batches, script.failure with
    | b :: rest, _ => (.data b, { script with batches := rest })
    | [], some fault => (.failure fault, script)
    | [], none => (.ended, script)
  cancel script :=
    match script.cancelFaults with
    | [] => (.ok (), script)
    | fault :: rest => (.error fault, { script with cancelFaults := rest })

end SeriesClient
