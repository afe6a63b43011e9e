import SeriesClient.Proofs.Stream.Cancelling
import SeriesClient.Query.Feed
import SeriesClient.Query.Reader

set_option relaxedAutoImplicit false
set_option autoImplicit false

/-!
# How a reader is driven

Whatever calls are made, the source before a reader asks it for more, or cancels it, only as long as
it has neither reported its end nor been cancelled.

## Main definitions

* `SeriesClient.FeedRecord` — what was done to a reader.
* `SeriesClient.Feed.recorded` — a reader whose use is recorded.
* `SeriesClient.FeedAnswer`, `SeriesClient.FeedSource.answers` — calls, and their answers.
* `SeriesClient.FeedSource.Pulled`, `SeriesClient.FeedSource.Stopped` — what a call comes to.
* `SeriesClient.FeedSource.Driven` — how a reader has been driven, and will be.
* `SeriesClient.FeedScript.source` — the batches of a reader whose chunks are known.

## Main results

* `SeriesClient.FeedSource.driven_answers` — a reader is driven correctly, by a source and by a
  stream over it.
* `SeriesClient.FeedScript.next_source`, `SeriesClient.FeedScript.closeSource_source`,
  `SeriesClient.QueryStream.pull_eq` — the source of a stream is the source before a reader.

## Design

One flag tells a source both that its reader has reported the end and that it has been cancelled.
It is set if and only if the last thing that was done to the reader is one of the two, and then
nothing is done any more.
-/

namespace SeriesClient

variable {φ β ω ι : Type}

/-! ## Records of readers -/

/-- What was done to a reader. -/
inductive FeedRecord (β : Type) where
  /-- It was asked for more, and came up with a chunk. -/
  | read (chunk : FeedChunk β)
  /-- It was tried to cancel it. -/
  | cancelled (result : Except Fault Unit)

/-- The reader has reported its end or has been cancelled. -/
def FeedRecord.IsLast : FeedRecord β → Prop
  | read chunk => chunk = .ended
  | cancelled result => result = .ok ()

/-- The batches that were read, in order. -/
def chunksOf (records : List (FeedRecord β)) : List β :=
  records.filterMap fun
    | .read (.data b) => some b
    | _ => none

/-- A reader whose use is recorded. -/
def Feed.recorded (f : Feed φ β) : Feed (Recorded φ (FeedRecord β)) β where
  read w :=
    let (chunk, reader) := f.read w.world
    (chunk, ⟨reader, w.records ++ [.read chunk]⟩)
  cancel w :=
    let (result, reader) := f.cancel w.world
    (result, ⟨reader, w.records ++ [.cancelled result]⟩)

/-- Asking a reader for more, next to a record. -/
lemma Feed.recorded_read (f : Feed φ β) {w : Recorded φ (FeedRecord β)} {chunk : FeedChunk β}
    {reader : φ} (h : f.read w.world = (chunk, reader)) :
    f.recorded.read w = (chunk, ⟨reader, w.records ++ [.read chunk]⟩) := by
  simp only [recorded, h]

/-- Cancelling a reader, next to a record. -/
lemma Feed.recorded_cancel (f : Feed φ β) {w : Recorded φ (FeedRecord β)}
    {result : Except Fault Unit} {reader : φ} (h : f.cancel w.world = (result, reader)) :
    f.recorded.cancel w = (result, ⟨reader, w.records ++ [.cancelled result]⟩) := by
  simp only [recorded, h]

/-- What a call of a source comes to. -/
inductive FeedAnswer (β : Type) where
  /-- The next batch was asked for. -/
  | next (result : Except Fault (Option β))
  /-- The source was to be closed. -/
  | close (result : Except Fault Unit)

/-- The batches that were handed out, in order. -/
def batchesOf (answers : List (FeedAnswer β)) : List β :=
  answers.filterMap fun
    | .next (.ok b?) => b?
    | _ => none

namespace FeedSource

/-- A source before a reader that has not been used. -/
def new (reader : φ) : FeedSource φ := ⟨reader, false⟩

/-- A call, and what it comes to. -/
def answer (f : Feed φ β) (s : FeedSource φ) : QueryStream.Call → FeedAnswer β × FeedSource φ
  | .next => (.next (next f s).1, (next f s).2)
  | .close => (.close (close f s).1, (close f s).2)

/-- Calls one after the other, and what they come to. -/
def answers (f : Feed φ β) :
    List QueryStream.Call → FeedSource φ → List (FeedAnswer β) × FeedSource φ
  | [], s => ([], s)
  | call :: calls, s =>
    ((answer f s call).1 :: (answers f calls (answer f s call).2).1,
      (answers f calls (answer f s call).2).2)

/-- What a call for the next batch comes to if the source is open: the reader is asked for more
once. -/
inductive Pulled (s : FeedSource (Recorded φ (FeedRecord β))) :
    Except Fault (Option β) → FeedSource (Recorded φ (FeedRecord β)) → Prop where
  /-- It has a batch, which is handed out. -/
  | data (b : β) (reader : φ) :
    Pulled s (.ok (some b)) ⟨⟨reader, s.reader.records ++ [.read (.data b)]⟩, false⟩
  /-- It fails. A failure with the same message is raised from the one of the transport, and the
  source stays open. -/
  | failure (fault : TransportFault) (raised : Fault) (reader : φ)
    (hraised : raised = .wire fault.text (some fault.kind))
    (hcause : raised.cause? = some (.transport fault.kind)) :
    Pulled s (.error raised) ⟨⟨reader, s.reader.records ++ [.read (.failure fault)]⟩, false⟩
  /-- It reports its end, and the source is closed. -/
  | ended (reader : φ) :
    Pulled s (.ok none) ⟨⟨reader, s.reader.records ++ [.read .ended]⟩, true⟩

/-- What closing an open source comes to: it is tried once to cancel the reader. -/
inductive Stopped (s : FeedSource (Recorded φ (FeedRecord β))) :
    Except Fault Unit → FeedSource (Recorded φ (FeedRecord β)) → Prop where
  /-- The reader is cancelled, and the source is closed. -/
  | cancelled (reader : φ) :
    Stopped s (.ok ()) ⟨⟨reader, s.reader.records ++ [.cancelled (.ok ())]⟩, true⟩
  /-- The attempt fails, and the source stays open. -/
  | failed (fault : Fault) (reader : φ) :
    Stopped s (.error fault) ⟨⟨reader, s.reader.records ++ [.cancelled (.error fault)]⟩, false⟩

/-- How a reader has been driven, by calls with the given answers. -/
structure Driven (given : List (FeedAnswer β)) (s : FeedSource (Recorded φ (FeedRecord β))) :
    Prop where
  /-- Nothing was done to the reader after it had reported its end or had been cancelled. -/
  last : ∀ before record after, s.reader.records = before ++ record :: after → record.IsLast →
    after = []
  /-- The source is closed if the reader has reported its end or has been cancelled. -/
  closed_iff : s.closed = true ↔ ∃ record ∈ s.reader.records, record.IsLast
  /-- The batches that were handed out are those that were read. -/
  batches_eq : batchesOf given = chunksOf s.reader.records

variable {f : Feed φ β} {given : List (FeedAnswer β)}
  {s t : FeedSource (Recorded φ (FeedRecord β))}

/-! ## Calls -/

/-- **A call for the next batch** asks the reader for more once. -/
lemma pulled_next (f : Feed φ β) (hopen : s.closed = false) :
    Pulled s (next f.recorded s).1 (next f.recorded s).2 := by
  obtain ⟨w, closed⟩ := s
  obtain rfl : closed = false := hopen
  simp only [next, Bool.false_eq_true, if_false]
  rcases hread : f.read w.world with ⟨b | fault | _, reader⟩ <;> rw [f.recorded_read hread]
  · exact .data b reader
  · exact .failure fault _ reader rfl rfl
  · exact .ended reader

/-- **Closing an open source** tries to cancel the reader once. -/
lemma stopped_close (f : Feed φ β) (hopen : s.closed = false) :
    Stopped s (close f.recorded s).1 (close f.recorded s).2 := by
  obtain ⟨w, closed⟩ := s
  obtain rfl : closed = false := hopen
  simp only [close, Bool.false_eq_true, if_false]
  rcases hcancel : f.cancel w.world with ⟨fault | _, reader⟩ <;> rw [f.recorded_cancel hcancel]
  · exact .failed fault reader
  · exact .cancelled reader

/-- What is done to the reader of an open source is the last thing that was done to it. -/
lemma Driven.append (hs : Driven given s) (hopen : s.closed = false) {record : FeedRecord β}
    {answer : FeedAnswer β} {reader : φ} {closed : Bool} (hclosed : closed = true ↔ record.IsLast)
    (hbatches : batchesOf [answer] = chunksOf [record]) :
    Driven (given ++ [answer]) ⟨⟨reader, s.reader.records ++ [record]⟩, closed⟩ where
  last before earlier after heq hlast := by
    rcases List.eq_nil_or_concat after with rfl | ⟨after, last, rfl⟩
    · rfl
    · have hsplit : s.reader.records ++ [record] = (before ++ earlier :: after) ++ [last] :=
        heq.trans (by simp)
      have hearlier : s.reader.records = before ++ earlier :: after :=
        (List.append_inj' hsplit rfl).1
      have hmem : earlier ∈ s.reader.records := by
        rw [hearlier]
        exact List.mem_append_right _ List.mem_cons_self
      have hclosed : s.closed = true := hs.closed_iff.2 ⟨earlier, hmem, hlast⟩
      rw [hopen] at hclosed
      cases hclosed
  closed_iff := by
    have hnone : ¬ ∃ record ∈ s.reader.records, record.IsLast := by
      rw [← hs.closed_iff, hopen]
      exact Bool.false_ne_true
    rw [hclosed]
    constructor
    · intro hlast
      exact ⟨record, List.mem_append_right _ (List.mem_singleton_self _), hlast⟩
    · rintro ⟨earlier, hmem, hlast⟩
      rcases List.mem_append.1 hmem with hmem | hmem
      · exact absurd ⟨earlier, hmem, hlast⟩ hnone
      · rwa [← List.mem_singleton.1 hmem]
  batches_eq := by
    have hgiven : batchesOf (given ++ [answer]) = batchesOf given ++ batchesOf [answer] :=
      List.filterMap_append
    have hread : chunksOf (s.reader.records ++ [record]) =
        chunksOf s.reader.records ++ chunksOf [record] := List.filterMap_append
    rw [hgiven, hread, hs.batches_eq, hbatches]

/-- **A call** drives the reader as it should be driven. -/
lemma Driven.answer (hs : Driven given s) (call : QueryStream.Call) :
    Driven (given ++ [(answer f.recorded s call).1]) (FeedSource.answer f.recorded s call).2 := by
  cases hclosed : s.closed with
  | true =>
    have hsame : Driven (given ++ [(FeedSource.answer f.recorded s call).1]) s := by
      refine ⟨hs.last, hs.closed_iff, ?_⟩
      have hnone : batchesOf [(FeedSource.answer f.recorded s call).1] = [] := by
        cases call with
        | next =>
          rw [FeedSource.answer, next_of_closed f.recorded s hclosed]
          rfl
        | close => rfl
      rw [batchesOf, List.filterMap_append, ← batchesOf, ← batchesOf, hnone, List.append_nil,
        hs.batches_eq]
    have hstays : (FeedSource.answer f.recorded s call).2 = s := by
      cases call with
      | next => rw [FeedSource.answer, next_of_closed f.recorded s hclosed]
      | close => rw [FeedSource.answer, close_of_closed f.recorded s hclosed]
    rw [hstays]
    exact hsame
  | false =>
    cases call with
    | next =>
      have hpulled := pulled_next f hclosed
      simp only [FeedSource.answer]
      generalize (next f.recorded s).1 = result at hpulled
      generalize (next f.recorded s).2 = t at hpulled
      cases hpulled with
      | data b reader => exact hs.append hclosed (by simp [FeedRecord.IsLast]) rfl
      | failure fault raised reader _ _ =>
        exact hs.append hclosed (by simp [FeedRecord.IsLast]) rfl
      | ended reader => exact hs.append hclosed (by simp [FeedRecord.IsLast]) rfl
    | close =>
      have hstopped := stopped_close f hclosed
      simp only [FeedSource.answer]
      generalize (close f.recorded s).1 = result at hstopped
      generalize (close f.recorded s).2 = t at hstopped
      cases hstopped with
      | cancelled reader => exact hs.append hclosed (by simp [FeedRecord.IsLast]) rfl
      | failed fault reader => exact hs.append hclosed (by simp [FeedRecord.IsLast]) rfl

/-- Calls drive the reader as it should be driven. -/
lemma Driven.answers (hs : Driven given s) (calls : List QueryStream.Call) :
    Driven (given ++ (answers f.recorded calls s).1)
      (FeedSource.answers f.recorded calls s).2 := by
  induction calls generalizing given s with
  | nil =>
    simp only [FeedSource.answers, List.append_nil]
    exact hs
  | cons call calls ih =>
    have hrest := ih (hs.answer (f := f) call)
    rw [List.append_assoc] at hrest
    exact hrest

/-- A reader that has not been used. -/
lemma driven_new (reader : φ) :
    Driven [] (new ⟨reader, []⟩ : FeedSource (Recorded φ (FeedRecord β))) where
  last before record after heq := by
    exact absurd heq.symm (List.append_ne_nil_of_right_ne_nil before (List.cons_ne_nil _ _))
  closed_iff := by simp [new]
  batches_eq := rfl

end FeedSource

/-! ## Streams -/

/-- The batches of a reader whose chunks are known, for a stream. -/
def FeedScript.source (script : FeedScript β) (closed : Bool) : Source β :=
  ⟨deliveries script.batches, script.failure.map TransportFault.toFault, closed⟩

/-- The next batch of a stream is the next one of the source before the reader. -/
theorem FeedScript.next_source (script : FeedScript β) (closed : Bool) :
    (script.source closed).next =
      let (result, s) := FeedSource.next FeedScript.feed ⟨script, closed⟩
      (result, s.reader.source s.closed) := by
  obtain ⟨bs, failure, cancelFaults⟩ := script
  cases closed with
  | true => rfl
  | false =>
    cases bs with
    | cons b rest => rfl
    | nil => cases failure <;> rfl

/-- A stream closes its source as the source before the reader is closed. -/
theorem FeedScript.closeSource_source (script : FeedScript Batch) (closed : Bool) (r : Reader)
    (hr : r.cancelFaults = script.cancelFaults) :
    Reader.closeSource (script.source closed) r =
      let (result, s) := FeedSource.close FeedScript.feed ⟨script, closed⟩
      (result, s.reader.source s.closed, { r with
        cancelFaults := s.reader.cancelFaults
        cancels := if closed then r.cancels else r.cancels + 1 }) := by
  obtain ⟨bs, failure, cancelFaults⟩ := script
  obtain ⟨decoder, cancelFaults, cancels⟩ := r
  obtain rfl := hr
  cases closed with
  | true => rfl
  | false => cases cancelFaults <;> rfl

namespace QueryStream

/-- A call pulls what the source comes up with next. -/
theorem pull_eq (h : Handler ω β ι) (s : QueryStream ω β)
    (hquiet : ∀ d ∈ s.source.pending, d.closing = false) :
    pull h s.source.pending s =
      match s.source.next with
      | (.error fault, _) => (.fail fault, s.finish)
      | (.ok none, _) => atEnd h s
      | (.ok (some b), source) =>
        let t := { s with
          source
          acquired := s.acquired ++ [(s.arrived, b)]
          arrived := s.arrived + 1 }
        match h.decoding with
        | .raw item => (.item (item b), { t with position := .between })
        | .steps count step =>
          match runSteps h step s.arrived b (count b) 0 t with
          | (some outcome, t) => (outcome, t)
          | (none, t) => pull h source.pending t := by
  cases hpending : s.source.pending with
  | nil =>
    simp only [pull, Source.next, hpending]
    cases s.source.closed with
    | true => rfl
    | false => cases s.source.failure <;> rfl
  | cons d rest =>
    have hd : d.closing = false := hquiet d (by rw [hpending]; exact List.mem_cons_self)
    cases hclosed : s.source.closed with
    | true => simp only [pull, Source.next, hclosed, if_true]
    | false =>
      simp only [pull, Source.next, hclosed, hpending, hd, Bool.false_eq_true, if_false]
      cases h.decoding with
      | raw item => rfl
      | steps count step =>
        simp only
        rcases runSteps h step s.arrived d.batch (count d.batch) 0 { s with
          source := ⟨rest, s.source.failure, false⟩
          acquired := s.acquired ++ [(s.arrived, d.batch)]
          arrived := s.arrived + 1 } with ⟨_ | outcome, t⟩
        · rfl
        · rfl

end QueryStream

/-- The stream of a query cancels its reader to close its source. -/
lemma QueryShape.cancels (shape : QueryShape) : shape.handler.Cancels Reader.cancels where
  ended source w := Reader.closeSource_of_closed source w
  cancelled source w hsource := by
    simp only [QueryShape.handler, Reader.closeSource, hsource, Bool.false_eq_true, if_false,
      Reader.cancel]
    cases w.cancelFaults <;> rfl
  releaseBatch _ _ := rfl
  callback _ := rfl
  step count step hsteps b i w := by
    cases shape with
    | batches => cases hsteps
    | rows shape =>
      cases hsteps
      simp only [Reader.step]
      rcases w.decoder.decode shape b i with ⟨⟨_ | _, _⟩, _⟩
      · rfl
      · rfl

/-- **A reader is driven correctly.** After any calls, nothing was done to it after it had reported
its end or had been cancelled, and the batches that were handed out are those that were read. An
open source asks it for more once in each call, or tries once to cancel it; a failure of either
kind leaves the source open. A closed source leaves it alone. Consequently, a stream over such a
source cancels the reader if and only if it is closed before the reader has reported its end.

**Proof sketch.** Induction on the calls, with one of `FeedSource.pulled_next` and
`FeedSource.stopped_close` for each. Of streams, `QueryStream.cancels_iff` tells the rest. -/
theorem FeedSource.driven_answers (f : Feed φ β) (h : Handler ω β ι) {cancels : ω → Nat}
    (hh : h.Cancels cancels) :
    (∀ (reader : φ) (calls : List QueryStream.Call),
      let given := answers f.recorded calls (new ⟨reader, []⟩)
      Driven given.1 given.2 ∧
        (given.2.closed = false →
          Pulled given.2 (next f.recorded given.2).1 (next f.recorded given.2).2 ∧
          Stopped given.2 (close f.recorded given.2).1 (close f.recorded given.2).2) ∧
        (given.2.closed = true →
          next f.recorded given.2 = (.ok none, given.2) ∧
          close f.recorded given.2 = (.ok (), given.2))) ∧
    ∀ (source : Source β) (w : ω) (calls : List QueryStream.Call), source.closed = false →
      cancels w = 0 →
      (0 < cancels (QueryStream.run h (.new source w) calls).world ↔
        (QueryStream.run h (.new source w) calls).closed = true ∧
        ¬ QueryStream.EndRead h (.new source w) calls) := by
  refine ⟨fun reader calls => ?_, fun source w calls hsource hw => ?_⟩
  · intro given
    refine ⟨(driven_new reader).answers calls, fun hopen => ?_, fun hclosed => ?_⟩
    · exact ⟨pulled_next f hopen, stopped_close f hopen⟩
    · exact ⟨next_of_closed _ _ hclosed, close_of_closed _ _ hclosed⟩
  · exact QueryStream.cancels_iff hh source hsource w hw calls

/-- A reader of no batches that is not cancelled at the first attempt. -/
def reluctantReader : FeedScript Batch := ⟨[], none, [.runtime "cancel failed"]⟩

/-- A source cancels the reader at the second attempt and leaves it alone afterwards. A stream that
is closed at once cancels it, and one that has come to its end does not. -/
theorem FeedSource.driven_answers_reluctantReader :
    let given := answers FeedScript.feed.recorded [.close, .close, .next]
      (new ⟨reluctantReader, []⟩)
    let h := QueryShape.batches.handler
    let s : QueryStream Reader Batch := .new (reluctantReader.source false)
      (.new reluctantReader.cancelFaults)
    h.Cancels Reader.cancels ∧ Driven given.1 given.2 ∧
      given.2.reader.records =
        [.cancelled (.error (.runtime "cancel failed")), .cancelled (.ok ())] ∧
      given.2.closed = true ∧ next FeedScript.feed.recorded given.2 = (.ok none, given.2) ∧
      (QueryStream.run h s [.close]).world.cancels = 2 ∧
      (QueryStream.run h s [.next, .close]).world.cancels = 0 ∧
      ¬ QueryStream.EndRead h s [.close] ∧ QueryStream.EndRead h s [.next, .close] := by
  have hcancels := QueryShape.batches.cancels
  obtain ⟨hdriven, hstream⟩ :=
    driven_answers FeedScript.feed QueryShape.batches.handler hcancels
  obtain ⟨hgiven, -, hclosed⟩ := hdriven reluctantReader [.close, .close, .next]
  have hiff := fun calls => hstream (reluctantReader.source false)
    (.new reluctantReader.cancelFaults) calls rfl rfl
  refine ⟨hcancels, hgiven, rfl, rfl, (hclosed rfl).1, rfl, rfl, ?_, ?_⟩
  · exact ((hiff [.close]).1 (Nat.zero_lt_succ 1)).2
  · by_contra hend
    exact absurd ((hiff [.next, .close]).2 ⟨rfl, hend⟩) (Nat.lt_irrefl 0)

end SeriesClient
