import SeriesClient.Proofs.Stream.CloseRecord
import SeriesClient.Stream.Script

set_option relaxedAutoImplicit false
set_option autoImplicit false

/-!
# Every batch is released once

Whatever fails, a batch that a source delivered is tracked until its release is attempted, and
its release is attempted once.

## Main definitions

* `SeriesClient.QueryStream.attempted` — the batches whose release was attempted.
* `SeriesClient.QueryStream.delivered` — the batches that have arrived.
* `SeriesClient.QueryStream.Tracked` — each batch that has arrived is in one of two places.
* `SeriesClient.QueryStream.Open`, `SeriesClient.QueryStream.Shut` — a stream that has not been
  closed, and one that has.
* `SeriesClient.QueryStream.ReleasesOnce` — what holds of a stream between calls.

## Main results

* `SeriesClient.QueryStream.Open.next`, `SeriesClient.QueryStream.Open.close` — what a call
  does to an open stream.
* `SeriesClient.QueryStream.releasesOnce_run` — every batch is released once, whatever the calls.

## Design

Batches are released in the order of their arrival, so the attempted releases followed by the
tracked batches are the batches that have arrived. This says at once that no batch is
released twice and that none is forgotten, also when batches are equal to each other.
-/

namespace SeriesClient

variable {ω β ι : Type}

/-- A decoder that does not close the stream that it serves, in any step of the given batches. -/
def Decoding.LeavesOpen (ds : List (Delivery β)) : Decoding ω β ι → Prop
  | .raw _ => True
  | .steps count step => ∀ d ∈ ds, ∀ i < count d.batch, ∀ w, (step d.batch i w).1 ≠ .close

/-- Batches that arrive without the stream being closed meanwhile. -/
def deliveries (bs : List β) : List (Delivery β) := bs.map fun b => ⟨b, false⟩

/-- The batches that arrive. -/
@[simp]
lemma map_batch_deliveries (bs : List β) : (deliveries bs).map Delivery.batch = bs := by
  rw [deliveries, List.map_map]
  exact List.map_id bs

/-- The batches that arrive after some. -/
@[simp]
lemma drop_deliveries (n : Nat) (bs : List β) :
    (deliveries bs).drop n = deliveries (bs.drop n) := by
  simp [deliveries]

namespace QueryStream

/-- The batches whose release was attempted, in order. -/
def attempted (s : QueryStream (Recorded ω (StreamRecord β)) β) : List β :=
  releasesOf s.world.records

/-- The batches that have arrived, if the source had the given ones at first. -/
def delivered (ds : List (Delivery β)) (s : QueryStream ω β) : List β :=
  (ds.take s.arrived).map Delivery.batch

/-- Each batch that has arrived has either been released, as far as this could be done, or is
tracked. -/
structure Tracked (ds : List (Delivery β)) (s : QueryStream (Recorded ω (StreamRecord β)) β) :
    Prop where
  /-- No more batches have arrived than there were. -/
  arrived_le : s.arrived ≤ ds.length
  /-- The attempted releases and then the tracked batches are the batches that have arrived. -/
  batches : s.attempted ++ s.acquired.map Prod.snd = s.delivered ds
  /-- The tracked batches have the numbers of their arrival. -/
  numbers : s.acquired.map Prod.fst = List.range' s.attempted.length s.acquired.length

/-- What an open stream tracks between calls: everything if batches are handed out as they are,
and otherwise the batch in progress, or the batch whose decoding failed. -/
def Holds (s : QueryStream (Recorded ω (StreamRecord β)) β) : Decoding ω β ι → Prop
  | .raw _ => s.attempted = []
  | .steps .. =>
    match s.position with
    | .between => s.acquired = []
    | .within number b _ => s.acquired = [(number, b)]
    | .finished => s.acquired.length ≤ 1

/-- A stream that has not been closed, between calls. -/
structure Open (decoding : Decoding ω β ι) (ds : List (Delivery β))
    (s : QueryStream (Recorded ω (StreamRecord β)) β) : Prop where
  /-- Each batch is tracked until it is released. -/
  tracked : s.Tracked ds
  /-- The stream has not been closed. -/
  closed_eq : s.closed = false
  /-- The source has the batches that have not arrived. -/
  pending_eq : s.source.pending = ds.drop s.arrived
  /-- What is tracked. -/
  holds : s.Holds decoding

/-- A stream that has been closed. -/
structure Shut (ds : List (Delivery β)) (s : QueryStream (Recorded ω (StreamRecord β)) β) :
    Prop where
  /-- Each batch has been released, as far as this could be done. -/
  tracked : s.Tracked ds
  /-- The stream has been closed. -/
  closed_eq : s.closed = true
  /-- Nothing is tracked. -/
  acquired_eq : s.acquired = []

variable {h : Handler ω β ι} {ds : List (Delivery β)}
  {s : QueryStream (Recorded ω (StreamRecord β)) β}

/-- A batch that is tracked was delivered. -/
lemma Tracked.exists_delivery (hs : s.Tracked ds) {number : Nat} {b : β}
    (hb : (number, b) ∈ s.acquired) : ∃ d ∈ ds, d.batch = b := by
  have hmem : b ∈ s.delivered ds := by
    rw [← hs.batches]
    exact List.mem_append_right _ (List.mem_map_of_mem hb)
  obtain ⟨d, hd, rfl⟩ := List.mem_map.1 hmem
  exact ⟨d, List.mem_of_mem_take hd, rfl⟩

/-- What is tracked does not depend on the source or on where the iteration stands. -/
lemma Tracked.congr (hs : s.Tracked ds) {t : QueryStream (Recorded ω (StreamRecord β)) β}
    (harrived : t.arrived = s.arrived) (hacquired : t.acquired = s.acquired)
    (hrecords : t.world.records = s.world.records) : t.Tracked ds := by
  have hattempted : t.attempted = s.attempted := congrArg releasesOf hrecords
  have hdelivered : t.delivered ds = s.delivered ds := by rw [delivered, harrived, delivered]
  refine ⟨?_, ?_, ?_⟩
  · rw [harrived]
    exact hs.arrived_le
  · rw [hattempted, hacquired, hdelivered]
    exact hs.batches
  · rw [hattempted, hacquired]
    exact hs.numbers

/-- The next batch of the source is one of those that it had at first. -/
lemma Open.mem_of_pending {decoding : Decoding ω β ι} (hs : s.Open decoding ds) {d : Delivery β}
    {rest : List (Delivery β)} (hpending : s.source.pending = d :: rest) : d ∈ ds := by
  have hdrop : d ∈ ds.drop s.arrived := by
    rw [← hs.pending_eq, hpending]
    exact List.mem_cons_self
  exact List.mem_of_mem_drop hdrop

/-- A stream that has not been read from is open, and tracks nothing. -/
lemma open_new (decoding : Decoding ω β ι) (source : Source β) (world : ω) :
    (new source ⟨world, []⟩ : QueryStream (Recorded ω (StreamRecord β)) β).Open decoding
      source.pending := by
  refine ⟨⟨Nat.zero_le _, rfl, rfl⟩, rfl, rfl, ?_⟩
  cases decoding <;> rfl

/-! ## Closing -/

/-- What is tracked after a closing is what was tracked before and has not been released. -/
lemma Tracked.closedBy (hs : s.Tracked ds) {records : List (StreamRecord β)}
    {result : Except Fault Unit} {t : QueryStream (Recorded ω (StreamRecord β)) β}
    (hclosed : ClosedBy h records result s t) : t.Tracked ds := by
  have hattempted : t.attempted = s.attempted ++ releasesOf records := by
    rw [attempted, hclosed.records_eq, releasesOf_append]
    rfl
  refine ⟨by rw [hclosed.arrived_eq]; exact hs.arrived_le, ?_, ?_⟩
  · rw [hattempted, List.append_assoc, hclosed.record.releases, hs.batches, delivered, delivered,
      hclosed.arrived_eq]
  · rcases hclosed.record.acquired_eq with hnone | ⟨hsame, hreleases, -⟩
    · rw [hnone]
      rfl
    · rw [hsame, hattempted, hreleases, List.append_nil]
      exact hs.numbers

/-- **Closing releases all that is tracked**, whatever fails but the callback. -/
lemma Tracked.shut_closeWithin (hs : s.Tracked ds) (hopen : s.closed = false)
    (hback : ∀ w, (h.callback w).1 = .ok ()) : (closeWithin h.recorded s).2.Shut ds := by
  obtain ⟨records, result, t, hclose, hclosed⟩ := exists_closedBy h hopen
  rw [hclose]
  refine ⟨hs.closedBy hclosed, hclosed.closed_eq, ?_⟩
  rcases hclosed.record.acquired_eq with hnone | ⟨-, -, fault, hfault, -⟩
  · exact hnone
  · exact absurd (hclosed.of_handler _ hfault) (StreamRecord.not_of_calledBack hback fault)

/-- **Closing an open stream releases all that it tracks.** -/
theorem Open.close {decoding : Decoding ω β ι} (hs : s.Open decoding ds)
    (hback : ∀ w, (h.callback w).1 = .ok ()) : (close h.recorded s).2.Shut ds := by
  have htracked : Tracked ds { s with position := .finished } :=
    hs.tracked.congr rfl rfl rfl
  have hopen : ¬ s.closed = true := by simp [hs.closed_eq]
  rw [QueryStream.close, if_neg hopen]
  exact htracked.shut_closeWithin hs.closed_eq hback

/-! ## Decoding -/

/-- Releasing the only batch that is tracked attempts it once, whatever comes of it. -/
lemma exists_release (hback : ∀ w, (h.callback w).1 = .ok ()) {number : Nat} {b : β}
    (hacquired : s.acquired = [(number, b)]) :
    ∃ result w, release h.recorded number b s = (result, { s with acquired := [], world := w }) ∧
      releasesOf w.records = s.attempted ++ [b] := by
  obtain ⟨records, result, world, hrelease, hrecord, hof⟩ := exists_releaseRecord h hacquired
  refine ⟨result, _, hrelease, ?_⟩
  cases hrecord with
  | completed _ =>
    rw [releasesOf_append]
    rfl
  | interrupted fault =>
    exact absurd (hof _ (List.mem_singleton_self _)) (StreamRecord.not_of_calledBack hback fault)

/-- Nothing is tracked once the only tracked batch has been released. -/
lemma Tracked.released (hs : s.Tracked ds) {number : Nat} {b : β}
    (hacquired : s.acquired = [(number, b)]) {w : Recorded ω (StreamRecord β)}
    (hw : releasesOf w.records = s.attempted ++ [b]) (position : Position β) :
    Tracked ds { s with acquired := [], world := w, position } := by
  refine ⟨hs.arrived_le, ?_, rfl⟩
  have hbatches := hs.batches
  rw [hacquired] at hbatches
  have hattempted : attempted { s with acquired := [], world := w, position } =
      s.attempted ++ [b] := hw
  rw [hattempted, List.map_nil, List.append_nil]
  exact hbatches

/-- What the steps of a batch lead to: an item or a failure, or else the end of the batch. -/
structure Stepped (decoding : Decoding ω β ι) (ds : List (Delivery β)) (source : Source β)
    (result : Option (Outcome ι)) (s : QueryStream (Recorded ω (StreamRecord β)) β) : Prop where
  /-- The stream stays open. -/
  opened : s.Open decoding ds
  /-- The end of a batch is not the end of the stream. -/
  ne_stop : result ≠ some .stop
  /-- Without an outcome, the next batch is to be pulled. -/
  between : result = none → s.position = .between ∧ s.source = source

/-- **The steps of a batch that is tracked** lead to an item, to a failure or to its release.
The batch stays tracked until there is no step left, and then its release is attempted. -/
lemma Tracked.runSteps (count : β → Nat)
    {step : β → Nat → ω → DecodeStep ι × List Notice × ω} (hs : s.Tracked ds)
    (hopen : s.closed = false) (hpending : s.source.pending = ds.drop s.arrived)
    (hback : ∀ w, (h.callback w).1 = .ok ()) {number : Nat} {b : β}
    (hacquired : s.acquired = [(number, b)]) (left i : Nat)
    (hstep : 0 < left → ∀ w, (step b i w).1 ≠ .close) :
    Stepped (.steps count step) ds s.source
      (runSteps h.recorded (Decoding.recordedStep step) number b left i s).1
      (runSteps h.recorded (Decoding.recordedStep step) number b left i s).2 := by
  cases left with
  | zero =>
    obtain ⟨result, w, hrelease, hw⟩ := exists_release hback hacquired
    have hreleased := hs.released hacquired hw
    simp only [QueryStream.runSteps, hrelease]
    rcases result with fault | _
    · exact ⟨⟨hreleased .finished, hopen, hpending, Nat.zero_le 1⟩, by simp, by simp⟩
    · exact ⟨⟨hreleased .between, hopen, hpending, rfl⟩, by simp, fun _ => ⟨rfl, rfl⟩⟩
  | succ left =>
    have hquiet := hstep (Nat.succ_pos left) s.world.world
    simp only [QueryStream.runSteps, Decoding.recordedStep]
    rcases hresult : step b i s.world.world with ⟨result, notices, world⟩
    rw [hresult] at hquiet
    have htracked : ∀ position, Tracked ds
        { s with
          notices := s.notices ++ notices
          world := ⟨world, s.world.records⟩
          position } :=
      fun _ => hs.congr rfl rfl rfl
    cases result with
    | item x => exact ⟨⟨htracked _, hopen, hpending, hacquired⟩, by simp, by simp⟩
    | fail fault =>
      have hone : s.acquired.length ≤ 1 := by simp [hacquired]
      exact ⟨⟨htracked _, hopen, hpending, hone⟩, by simp, by simp⟩
    | close => exact absurd rfl hquiet

/-! ## Pulling -/

/-- A batch that arrives is tracked. -/
lemma Tracked.arrive (hs : s.Tracked ds) {d : Delivery β} {rest : List (Delivery β)}
    (hdrop : ds.drop s.arrived = d :: rest) (position : Position β) :
    Tracked ds { s with
      source := { s.source with pending := rest }
      acquired := s.acquired ++ [(s.arrived, d.batch)]
      arrived := s.arrived + 1
      position } ∧ rest = ds.drop (s.arrived + 1) := by
  have hlt : s.arrived < ds.length := by
    by_contra hge
    rw [List.drop_eq_nil_of_le (by omega)] at hdrop
    cases hdrop
  have htake : ds.take (s.arrived + 1) = ds.take s.arrived ++ [d] := by
    rw [List.take_add, hdrop]
    rfl
  have hlength : s.attempted.length + s.acquired.length = s.arrived := by
    have hlen := congrArg List.length hs.batches
    simp only [delivered, List.length_append, List.length_map, List.length_take] at hlen
    omega
  refine ⟨⟨hlt, ?_, ?_⟩, ?_⟩
  · simp only [delivered, htake, List.map_append, List.map_cons, List.map_nil]
    have hbatches := hs.batches
    simp only [delivered] at hbatches
    rw [← hbatches, List.append_assoc]
    rfl
  · have hrange := List.range'_1_concat (s := s.attempted.length) (n := s.acquired.length)
    rw [hlength, ← hs.numbers] at hrange
    simp only [List.map_append, List.map_cons, List.map_nil, List.length_append,
      List.length_cons, List.length_nil]
    exact hrange.symm
  · rw [← List.drop_drop, hdrop]
    rfl

/-- A batch that arrives is tracked by an open stream. -/
lemma Open.arrive {decoding : Decoding ω β ι} (hs : s.Open decoding ds) {d : Delivery β}
    {rest : List (Delivery β)} (hpending : s.source.pending = d :: rest) (position : Position β) :
    Tracked ds { s with
      source := { s.source with pending := rest }
      acquired := s.acquired ++ [(s.arrived, d.batch)]
      arrived := s.arrived + 1
      position } ∧ rest = ds.drop (s.arrived + 1) :=
  hs.tracked.arrive (by rw [← hs.pending_eq, hpending]) position

section Raw

variable {item : β → ι}

/-- The end of the source leaves a stream open that hands out batches as they are. -/
lemma Open.atEnd (hs : s.Open (.raw item : Decoding ω β ι) ds) (hraw : h.decoding = .raw item) :
    (atEnd h.recorded s).2.Open (.raw item : Decoding ω β ι) ds := by
  have hdecoding := h.recorded_raw hraw
  simp only [QueryStream.atEnd, hdecoding]
  exact ⟨hs.tracked.congr rfl rfl rfl, hs.closed_eq,
    hs.pending_eq, hs.holds⟩

/-- **Pulling a batch that is handed out as it is** adds it to those that are tracked. -/
lemma Open.pull (hs : s.Open (.raw item : Decoding ω β ι) ds) (hraw : h.decoding = .raw item)
    (hquiet : ∀ d ∈ ds, d.closing = false) :
    (pull h.recorded s.source.pending s).2.Open (.raw item : Decoding ω β ι) ds := by
  have hdecoding := h.recorded_raw hraw
  cases hpending : s.source.pending with
  | nil =>
    simp only [QueryStream.pull]
    split
    · exact ⟨hs.tracked.congr rfl rfl rfl, hs.closed_eq,
        hs.pending_eq, hs.holds⟩
    · exact hs.atEnd hraw
  | cons d rest =>
    have hd : d.closing = false := hquiet d (hs.mem_of_pending hpending)
    obtain ⟨htracked, hrest⟩ := hs.arrive hpending .between
    simp only [QueryStream.pull, hd, Bool.false_eq_true, if_false, hdecoding]
    split
    · exact hs.atEnd hraw
    · exact ⟨htracked, hs.closed_eq, hrest, hs.holds⟩

end Raw

section Steps

variable {count : β → Nat} {step : β → Nat → ω → DecodeStep ι × List Notice × ω}

/-- The end of the source closes a stream that decodes. -/
lemma Open.shut_atEnd (hs : s.Open (.steps count step) ds)
    (hsteps : h.decoding = .steps count step) (hback : ∀ w, (h.callback w).1 = .ok ()) :
    (QueryStream.atEnd h.recorded s).2.Shut ds := by
  have hdecoding := h.recorded_steps hsteps
  have htracked : Tracked ds
      { s with source := { s.source with closed := true }, position := .finished } :=
    hs.tracked.congr rfl rfl rfl
  have hshut := htracked.shut_closeWithin (h := h) hs.closed_eq hback
  simp only [QueryStream.atEnd, hdecoding, finish]
  revert hshut
  generalize closeWithin h.recorded
    { s with source := { s.source with closed := true }, position := .finished } = result
  intro hshut
  rcases result with ⟨_ | _, t⟩ <;> exact hshut

/-- **Pulling batches that are decoded** leads to an item or a failure with one batch in progress
at most, or closes the stream.

**Proof sketch.** Induction on the batches that are pending. A batch whose steps are over has been
released (`Open.runSteps`), and the next one is pulled with nothing tracked. -/
lemma Open.pull_steps (hs : s.Open (.steps count step) ds)
    (hsteps : h.decoding = .steps count step) (hback : ∀ w, (h.callback w).1 = .ok ())
    (hstep : ∀ d ∈ ds, ∀ i < count d.batch, ∀ w, (step d.batch i w).1 ≠ .close)
    (hquiet : ∀ d ∈ ds, d.closing = false) (hposition : s.position = .between)
    {pending : List (Delivery β)} (hpending : s.source.pending = pending) :
    ((QueryStream.pull h.recorded pending s).2.Shut ds) ∨
      ((QueryStream.pull h.recorded pending s).2.Open (.steps count step) ds ∧
        (QueryStream.pull h.recorded pending s).1 ≠ .stop) := by
  have hdecoding := h.recorded_steps hsteps
  have hacquired : ∀ {t : QueryStream (Recorded ω (StreamRecord β)) β},
      t.Open (.steps count step) ds → t.position = .between → t.acquired = [] := by
    intro t ht hbetween
    have hholds := ht.holds
    simpa only [Holds, hbetween] using hholds
  induction pending generalizing s with
  | nil =>
    simp only [QueryStream.pull]
    split
    · refine .inr ⟨⟨hs.tracked.congr rfl rfl rfl, hs.closed_eq,
        hs.pending_eq, ?_⟩, by simp⟩
      have hnone := hacquired hs hposition
      show s.acquired.length ≤ 1
      rw [hnone]
      exact Nat.zero_le 1
    · exact .inl (hs.shut_atEnd hsteps hback)
  | cons d rest ih =>
    have hmem : d ∈ ds := hs.mem_of_pending hpending
    have hd : d.closing = false := hquiet d hmem
    obtain ⟨htracked, hrest⟩ := hs.arrive hpending s.position
    have hone : s.acquired ++ [(s.arrived, d.batch)] = [(s.arrived, d.batch)] := by
      rw [hacquired hs hposition]
      rfl
    have hrun := htracked.runSteps count hs.closed_eq hrest hback hone (count d.batch) 0
      fun hleft => hstep d hmem 0 hleft
    simp only [QueryStream.pull, hd, Bool.false_eq_true, if_false, hdecoding]
    split
    · exact .inl (hs.shut_atEnd hsteps hback)
    · revert hrun
      generalize QueryStream.runSteps h.recorded (Decoding.recordedStep step) s.arrived d.batch
        (count d.batch) 0 { s with
          source := { s.source with pending := rest }
          acquired := s.acquired ++ [(s.arrived, d.batch)]
          arrived := s.arrived + 1 } = result
      intro hrun
      rcases result with ⟨_ | outcome, t⟩
      · obtain ⟨hbetween, hsource⟩ := hrun.between rfl
        refine ih hrun.opened hbetween ?_
        rw [hsource]
      · exact .inr ⟨hrun.opened, fun hstop => hrun.ne_stop (congrArg some hstop)⟩

/-- **The steps that are left of the batch in progress** lead to an item, to a failure or to its
release. -/
lemma Open.resume (hs : s.Open (.steps count step) ds) (hback : ∀ w, (h.callback w).1 = .ok ())
    (hstep : ∀ d ∈ ds, ∀ i < count d.batch, ∀ w, (step d.batch i w).1 ≠ .close) {number : Nat}
    {b : β} {i : Nat} (hposition : s.position = .within number b i) :
    Stepped (.steps count step) ds s.source
      (QueryStream.runSteps h.recorded (Decoding.recordedStep step) number b (count b - i) i s).1
      (QueryStream.runSteps h.recorded (Decoding.recordedStep step) number b (count b - i) i
        s).2 := by
  have hacquired : s.acquired = [(number, b)] := by
    have hholds := hs.holds
    simpa only [Holds, hposition] using hholds
  have hmem : (number, b) ∈ s.acquired := by
    rw [hacquired]
    exact List.mem_singleton_self _
  obtain ⟨d, hd, rfl⟩ := hs.tracked.exists_delivery hmem
  refine hs.tracked.runSteps count hs.closed_eq hs.pending_eq hback hacquired _ i ?_
  intro hleft
  exact hstep d hd i (by omega)

end Steps

/-! ## Calls -/

/-- **A call for the next item** leaves an open stream open, or closes it. A stream that decodes
does not reach its end without being closed. -/
theorem Open.next (hs : s.Open h.decoding ds) (hback : ∀ w, (h.callback w).1 = .ok ())
    (hdecoding : h.decoding.LeavesOpen ds) (hquiet : ∀ d ∈ ds, d.closing = false) :
    (next h.recorded s).2.Shut ds ∨ (next h.recorded s).2.Open h.decoding ds ∧
      ∀ count step, h.decoding = .steps count step → s.position ≠ .finished →
        (next h.recorded s).1 ≠ .stop := by
  have hopen : ¬ s.closed = true := by simp [hs.closed_eq]
  rw [QueryStream.next, if_neg hopen]
  cases hmode : h.decoding with
  | raw item =>
    have hrecorded := h.recorded_raw hmode
    rw [hmode] at hs
    simp only [hrecorded]
    split
    · exact .inr ⟨hs, by simp⟩
    · exact .inr ⟨hs.pull hmode hquiet, by simp⟩
    · exact .inr ⟨hs, by simp⟩
  | steps count step =>
    have hrecorded := h.recorded_steps hmode
    rw [hmode] at hs hdecoding
    simp only [hrecorded]
    split
    · next hposition => exact .inr ⟨hs, fun _ _ _ hne => absurd hposition hne⟩
    · next hposition =>
      have hpull := hs.pull_steps hmode hback hdecoding hquiet hposition rfl
      exact hpull.imp id (And.imp_right fun hne _ _ _ _ => hne)
    · next number b i hposition =>
      have hrun := hs.resume hback hdecoding hposition
      revert hrun
      generalize QueryStream.runSteps h.recorded (Decoding.recordedStep step) number b
        (count b - i) i s = result
      intro hrun
      rcases result with ⟨_ | outcome, t⟩
      · obtain ⟨hbetween, -⟩ := hrun.between rfl
        have hpull := hrun.opened.pull_steps hmode hback hdecoding hquiet hbetween rfl
        exact hpull.imp id (And.imp_right fun hne _ _ _ _ => hne)
      · exact .inr ⟨hrun.opened, fun _ _ _ _ hstop => hrun.ne_stop (congrArg some hstop)⟩

/-- What holds of a stream between calls. -/
structure ReleasesOnce (h : Handler ω β ι) (ds : List (Delivery β))
    (s : QueryStream (Recorded ω (StreamRecord β)) β) : Prop where
  /-- Each batch that has arrived is tracked and its release was not attempted, or the other way
  around. -/
  tracked : s.Tracked ds
  /-- The batches that have arrived are those that an open stream has pulled from its source: what is
  left there are the others. -/
  pending_eq : s.closed = false → s.source.pending = ds.drop s.arrived
  /-- An open stream that hands out batches as they are tracks all of them. -/
  raw : ∀ item, h.decoding = .raw item → s.closed = false →
    s.attempted = [] ∧ s.acquired.map Prod.snd = s.delivered ds
  /-- A stream that decodes tracks one batch at most. -/
  decoded : ∀ count step, h.decoding = .steps count step → s.acquired.length ≤ 1
  /-- A closed stream tracks nothing, and the release of each batch was attempted once. -/
  released : s.closed = true → s.acquired = [] ∧ s.attempted = s.delivered ds
  /-- A closed stream has no further item. -/
  next_eq : s.closed = true → QueryStream.next h.recorded s = (.stop, s)
  /-- Closing a closed stream changes nothing. -/
  close_eq : s.closed = true → QueryStream.close h.recorded s = (.ok (), s)
  /-- Once it has been tried to close the stream, it is closed. -/
  closes : (QueryStream.close h.recorded s).2.closed = true
  /-- A stream that decodes is closed once it has come to its end. -/
  exhausted : ∀ count step, h.decoding = .steps count step → s.position ≠ .finished →
    (QueryStream.next h.recorded s).1 = .stop → (QueryStream.next h.recorded s).2.closed = true

/-- A stream that is shut is the same after any call. -/
lemma Shut.after (hs : s.Shut ds) (call : Call) : after h.recorded s call = s := by
  cases call with
  | next => rw [QueryStream.after, next_of_closed _ _ hs.closed_eq]
  | close => rw [QueryStream.after, close_of_closed _ _ hs.closed_eq]

/-- A stream that is shut has released every batch. -/
lemma Shut.releasesOnce (hs : s.Shut ds) : s.ReleasesOnce h ds where
  tracked := hs.tracked
  pending_eq hopen := by
    rw [hs.closed_eq] at hopen
    cases hopen
  raw _ _ hopen := by
    rw [hs.closed_eq] at hopen
    cases hopen
  decoded _ _ _ := by simp [hs.acquired_eq]
  released _ := by
    have hbatches := hs.tracked.batches
    rw [hs.acquired_eq, List.map_nil, List.append_nil] at hbatches
    exact ⟨hs.acquired_eq, hbatches⟩
  next_eq _ := next_of_closed _ _ hs.closed_eq
  close_eq _ := close_of_closed _ _ hs.closed_eq
  closes := by rw [close_of_closed _ _ hs.closed_eq, hs.closed_eq]
  exhausted _ _ _ _ _ := by rw [next_of_closed _ _ hs.closed_eq, hs.closed_eq]

section Run

variable (hback : ∀ w, (h.callback w).1 = .ok ()) (hdecoding : h.decoding.LeavesOpen ds)
  (hquiet : ∀ d ∈ ds, d.closing = false)

include hback hdecoding hquiet

/-- An open stream tracks every batch that it has not released. -/
lemma Open.releasesOnce (hs : s.Open h.decoding ds) : s.ReleasesOnce h ds := by
  have hopen : s.closed ≠ true := by simp [hs.closed_eq]
  have hholds := hs.holds
  refine ⟨hs.tracked, fun _ => hs.pending_eq, fun item hraw _ => ?_, fun count step hsteps => ?_,
    fun h => absurd h hopen, fun h => absurd h hopen, fun h => absurd h hopen,
    (hs.close hback).closed_eq, fun count step hsteps hposition hstop => ?_⟩
  · have hbatches := hs.tracked.batches
    rw [hraw] at hholds
    rw [hholds, List.nil_append] at hbatches
    exact ⟨hholds, hbatches⟩
  · rw [hsteps] at hholds
    cases hposition : s.position <;> simp only [Holds, hposition] at hholds
    · simp [hholds]
    · simp [hholds]
    · exact hholds
  · rcases hs.next hback hdecoding hquiet with hshut | ⟨-, hne⟩
    · exact hshut.closed_eq
    · exact absurd hstop (hne count step hsteps hposition)

/-- A call leaves a stream open or shuts it. -/
lemma open_or_shut_after (hs : s.Open h.decoding ds ∨ s.Shut ds) (call : Call) :
    (after h.recorded s call).Open h.decoding ds ∨ (after h.recorded s call).Shut ds := by
  rcases hs with hs | hs
  · cases call with
    | next => exact (hs.next hback hdecoding hquiet).symm.imp And.left id
    | close => exact .inr (hs.close hback)
  · rw [hs.after]
    exact .inr hs

/-- After any calls, a stream is open or shut. -/
lemma open_or_shut_run (hs : s.Open h.decoding ds ∨ s.Shut ds) (calls : List Call) :
    (run h.recorded s calls).Open h.decoding ds ∨ (run h.recorded s calls).Shut ds := by
  induction calls generalizing s with
  | nil => exact hs
  | cons call calls ih => exact ih (open_or_shut_after hback hdecoding hquiet hs call)

end Run

/-- **Every batch is released once**, whatever the source, the decoder, and the releases do, and
whichever calls are made.

**Proof sketch.** Induction on the calls. A call leaves an open stream open or shuts it
(`Open.next`, `Open.close`), and does nothing to a stream that is shut. -/
theorem releasesOnce_run (h : Handler ω β ι) (hback : ∀ w, (h.callback w).1 = .ok ())
    (source : Source β) (hdecoding : h.decoding.LeavesOpen source.pending)
    (hquiet : ∀ d ∈ source.pending, d.closing = false) (world : ω) (calls : List Call) :
    (run h.recorded (new source ⟨world, []⟩) calls).ReleasesOnce h source.pending := by
  have hnew : (new source ⟨world, []⟩ : QueryStream _ β).Open h.decoding source.pending := by
    refine ⟨⟨Nat.zero_le _, rfl, rfl⟩, rfl, rfl, ?_⟩
    cases h.decoding <;> rfl
  rcases open_or_shut_run hback hdecoding hquiet (.inl hnew) calls with hs | hs
  · exact hs.releasesOnce hback hdecoding hquiet
  · exact hs.releasesOnce

/-- Two batches of which the first cannot be released, from a source that does not close at
first. -/
def stubbornSource : Source ScriptBatch where
  pending :=
    [⟨⟨0, [.item (.int 1), .item (.int 2)], some (.runtime "release failed"), false⟩, false⟩,
      ⟨⟨1, [.item (.int 3)], none, false⟩, false⟩]
  failure := none
  closed := false

/-- Batches that cannot all be released are released once as well. -/
theorem releasesOnce_stubbornSource :
    (run (Script.handler ⟨1, true, true⟩).recorded (new stubbornSource ⟨⟨0, [0, 0], 0⟩, []⟩)
      [.next, .next, .next, .close]).ReleasesOnce (Script.handler ⟨1, true, true⟩)
      stubbornSource.pending := by
  refine releasesOnce_run _ (fun _ => rfl) _ ?_ ?_ _ _
  · intro d hd i hi w
    simp only [stubbornSource, List.mem_cons, List.not_mem_nil, or_false] at hd
    rcases hd with rfl | rfl
    · match i, hi with
      | 0, _ => nofun
      | 1, _ => nofun
    · match i, hi with
      | 0, _ => nofun
  · intro d hd
    simp only [stubbornSource, List.mem_cons, List.not_mem_nil, or_false] at hd
    rcases hd with rfl | rfl <;> rfl

end QueryStream

end SeriesClient
