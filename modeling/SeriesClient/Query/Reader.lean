import SeriesClient.Batch.Decoder
import SeriesClient.Stream.Basic

set_option relaxedAutoImplicit false
set_option autoImplicit false

/-!
# Results of queries

Streams over the batches that a server sends in answer to a query. Batches are handed out
as they are, or decoded into rows.

## Main definitions

* `SeriesClient.QueryShape` — in which shape results are wanted.
* `SeriesClient.Reader` — the decoder of a stream, and what becomes of attempts to cancel.
* `SeriesClient.Reader.closeSource` — cancels a query that has not ended.
* `SeriesClient.QueryShape.handler` — how a stream deals with its query.

## Main results

* `SeriesClient.Reader.closeSource_of_closed` — a query that has ended is not cancelled.

## Design

Batches are freed when nothing refers to them, so their release always succeeds.
-/

namespace SeriesClient

/-- In which shape results are wanted. -/
inductive QueryShape where
  /-- Decoded rows. -/
  | rows (shape : RowShape)
  /-- Whole batches. -/
  | batches
  deriving DecidableEq, Repr

/-- An item of the results. -/
inductive QueryItem where
  /-- A decoded row. -/
  | row (r : DecodedRow)
  /-- A batch. -/
  | batch (b : Batch)

/-- What a stream of results holds besides its batches. -/
structure Reader where
  /-- The decoder. -/
  decoder : Decoder
  /-- The failures of the next attempts to cancel. -/
  cancelFaults : List Fault
  /-- How often it was tried to cancel the query. -/
  cancels : Nat

namespace Reader

/-- A reader of a query that has just been started. -/
def new (cancelFaults : List Fault) : Reader := ⟨.new, cancelFaults, 0⟩

/-- An attempt to cancel the query. -/
def cancel (r : Reader) : Except Fault Unit × Reader :=
  let r := { r with cancels := r.cancels + 1 }
  match r.cancelFaults with
  | [] => (.ok (), r)
  | fault :: rest => (.error fault, { r with cancelFaults := rest })

/-- Cancels the query unless it has ended; it counts as ended once this succeeds. -/
def closeSource (source : Source Batch) (r : Reader) :
    Except Fault Unit × Source Batch × Reader :=
  if source.closed then (.ok (), source, r)
  else
    match r.cancel with
    | (.ok (), r) => (.ok (), { source with closed := true }, r)
    | (.error fault, r) => (.error fault, source, r)

/-- A query that has ended is not cancelled. -/
theorem closeSource_of_closed (source : Source Batch) (r : Reader) (h : source.closed = true) :
    closeSource source r = (.ok (), source, r) := by
  simp [closeSource, h]

/-- Lets go of the values of the batch that was read last. -/
def release (r : Reader) : Except Fault Unit × Reader :=
  (.ok (), { r with decoder := r.decoder.release })

/-- Decodes one row of a batch. -/
def step (shape : RowShape) (b : Batch) (index : Nat) (r : Reader) :
    DecodeStep QueryItem × List Notice × Reader :=
  let ((result, notices), decoder) := r.decoder.decode shape b index
  let r := { r with decoder }
  match result with
  | .ok row => (.item (.row row), notices, r)
  | .error fault => (.fail fault, notices, r)

end Reader

/-- How batches become results. -/
def QueryShape.decoding : QueryShape → Decoding Reader Batch QueryItem
  | rows shape => .steps Batch.rowCount (Reader.step shape)
  | batches => .raw .batch

/-- How a stream of results deals with its query and its batches. -/
def QueryShape.handler (shape : QueryShape) : Handler Reader Batch QueryItem where
  closeSource := Reader.closeSource
  releaseBatch _ r := (.ok (), r)
  callback := Reader.release
  decoding := shape.decoding

end SeriesClient
