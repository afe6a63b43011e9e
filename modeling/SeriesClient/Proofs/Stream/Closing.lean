import SeriesClient.Proofs.Stream.Tracking

set_option relaxedAutoImplicit false
set_option autoImplicit false

/-!
# Closing a stream in the middle of a call

A stream can be closed while a call for its next item is in progress: by its source before a
batch arrives, by its decoder inside a batch, or by somebody else while the call waits for the
source. What becomes of the batches then depends on what the call still does.

## Main definitions

* `SeriesClient.Handler.Succeeds` — closing, releasing and calling back succeed.
* `SeriesClient.QueryStream.Expected` — the outcomes that a reader of a stream expects.
* `SeriesClient.QueryStream.Late` — a closed stream that still tracks its last batch.
* `SeriesClient.QueryStream.Ends` — how a call for the next item ends.
* `SeriesClient.QueryStream.LeaksNothing` — what is expected of such a call.
* `SeriesClient.QueryStream.Rests` — where a stream stands between calls, whatever has failed.
* `SeriesClient.QueryStream.Disturbed` — a stream after a call in which a release has failed.
* `SeriesClient.QueryStream.Waits` — the points at which it waits for the source.

## Main results

* `SeriesClient.QueryStream.Busy.runSteps`, `SeriesClient.QueryStream.Clear.pull` — what the
  steps of a batch lead to, and what pulling leads to.
* `SeriesClient.QueryStream.Open.ends_or_disturbed_next` — how a call ends, whatever fails.
* `SeriesClient.QueryStream.Waits.closed` — closing a stream whose source has no further batch.
* `SeriesClient.QueryStream.interrupted_run` — how a call ends, wherever the stream is closed.
* `SeriesClient.QueryStream.Ends.leaksNothing` — the ways of ending that leak nothing.

## Design

Closing releases what is tracked at that moment. A batch that arrives later is tracked after
that, and only its own release can take it away again: it is released if its decoder hands out
nothing, and stays for ever if the call ends inside it. The other way around, a batch
that is in progress when its decoder closes the stream has been released by the closing, and the
release at its end does not find it.
-/

namespace SeriesClient

variable {ω β ι : Type}

/-- Closing the source, releasing one of the given batches and calling back succeed. -/
structure Handler.Succeeds (h : Handler ω β ι) (ds : List (Delivery β)) : Prop where
  /-- The source closes. -/
  closeSource : ∀ source w, (h.closeSource source w).1 = .ok ()
  /-- Each batch is released. -/
  releaseBatch : ∀ d ∈ ds, ∀ w, (h.releaseBatch d.batch w).1 = .ok ()
  /-- The callback returns. -/
  callback : ∀ w, (h.callback w).1 = .ok ()

/-- Nothing that has been done to the given batches has failed. -/
lemma Handler.Succeeds.result_ok {h : Handler ω β ι} {ds : List (Delivery β)}
    (hh : h.Succeeds ds) {records : List (StreamRecord β)} (hof : ∀ record ∈ records, record.Of h)
    (hreleases : ∀ b ∈ releasesOf records, ∃ d ∈ ds, d.batch = b) :
    ∀ record ∈ records, record.result = .ok () := by
  intro record hrecord
  have hdone := hof record hrecord
  cases record with
  | closedSource result =>
    obtain ⟨source, w, rfl⟩ := hdone
    exact hh.closeSource source w
  | released b result =>
    have hmem : b ∈ releasesOf records := List.mem_filterMap.2 ⟨_, hrecord, rfl⟩
    obtain ⟨d, hd, rfl⟩ := hreleases b hmem
    obtain ⟨w, rfl⟩ := hdone
    exact hh.releaseBatch d hd w
  | calledBack result =>
    obtain ⟨w, rfl⟩ := hdone
    exact hh.callback w

/-- A decoder that can make the given step inside a batch. -/
def Decoding.Makes (b : β) (result : DecodeStep ι) : Decoding ω β ι → Prop
  | .raw item => result = .item (item b)
  | .steps count step => ∃ i < count b, ∃ w, (step b i w).1 = result

namespace QueryStream

/-! ## How a call ends -/

/-- What comes out of a batch: one of its items, or the failure of its decoder. -/
inductive Decoded (decoding : Decoding ω β ι) (b : β) : Outcome ι → Prop where
  | item {x : ι} (hx : decoding.Makes b (.item x)) : Decoded decoding b (.item x)
  | fail {fault : Fault} (hfault : decoding.Makes b (.fail fault)) :
    Decoded decoding b (.fail fault)

/-- What a reader of a stream expects: an item, the end, or the failure of the source or of the
decoder. -/
inductive Expected (decoding : Decoding ω β ι) (ds : List (Delivery β)) (failure : Option Fault) :
    Outcome ι → Prop where
  | decoded {d : Delivery β} {outcome : Outcome ι} (hd : d ∈ ds)
    (houtcome : Decoded decoding d.batch outcome) : Expected decoding ds failure outcome
  | stop : Expected decoding ds failure .stop
  | source {fault : Fault} (hfault : failure = some fault) :
    Expected decoding ds failure (.fail fault)

/-- A stream that was closed before a batch arrived, and that tracks this batch. -/
structure Late (ds : List (Delivery β)) (number : Nat) (b : β)
    (s : QueryStream (Recorded ω (StreamRecord β)) β) : Prop where
  /-- Each batch is tracked until it is released. -/
  tracked : s.Tracked ds
  /-- The stream has been closed. -/
  closed_eq : s.closed = true
  /-- One batch is tracked. -/
  acquired_eq : s.acquired = [(number, b)]
  /-- It, or one before it, arrived after the stream had been closed. -/
  closing : ∃ d ∈ ds.take s.arrived, d.closing = true

/-- How a call for the next item ends on a stream that is open before it. -/
inductive Ends (decoding : Decoding ω β ι) (ds : List (Delivery β))
    (s : QueryStream (Recorded ω (StreamRecord β)) β) : Outcome ι → Prop where
  /-- Nobody has closed the stream. -/
  | opened {outcome : Outcome ι} (hs : s.Open decoding ds)
    (houtcome : Expected decoding ds s.source.failure outcome) : Ends decoding ds s outcome
  /-- The stream has been closed, and every batch has been released. -/
  | released {outcome : Outcome ι} (hs : s.Shut ds)
    (houtcome : Expected decoding ds s.source.failure outcome) : Ends decoding ds s outcome
  /-- The last batch arrived after the stream had been closed, and something came out of it. -/
  | late {number : Nat} {b : β} {outcome : Outcome ι} (hs : s.Late ds number b)
    (houtcome : Decoded decoding b outcome) : Ends decoding ds s outcome
  /-- A decoder closed the stream and came to the end of its batch. -/
  | untracked {d : Delivery β} (hs : s.Shut ds) (hd : d ∈ ds)
    (hclose : decoding.Makes d.batch .close) :
    Ends decoding ds s (.fail (.invalid .batchNotTracked))

variable {h : Handler ω β ι} {ds : List (Delivery β)}
  {s t : QueryStream (Recorded ω (StreamRecord β)) β}

/-- A call in whose middle a stream is closed, and that leaks nothing: each batch that has arrived
has been released once, nothing is tracked, and a reader expects the outcome. -/
structure LeaksNothing (decoding : Decoding ω β ι) (ds : List (Delivery β))
    (ended : Outcome ι × QueryStream (Recorded ω (StreamRecord β)) β) : Prop where
  /-- Each batch has been released once. -/
  attempted_eq : ended.2.attempted = ended.2.delivered ds
  /-- Nothing is tracked. -/
  acquired_eq : ended.2.acquired = []
  /-- A reader expects the outcome. -/
  expected : Expected decoding ds ended.2.source.failure ended.1

/-- A stream that is shut has released each batch that has arrived. -/
lemma Shut.attempted_eq (hs : s.Shut ds) : s.attempted = s.delivered ds := by
  have hbatches := hs.tracked.batches
  rwa [hs.acquired_eq, List.map_nil, List.append_nil] at hbatches

/-- **A call in whose middle the stream is closed leaks nothing**, unless a batch arrives after the
closing, or the call comes to the end of a batch whose decoder closed the stream. -/
theorem Ends.leaksNothing {decoding : Decoding ω β ι} {outcome : Outcome ι}
    (hs : Ends decoding ds s outcome) (hclosed : s.closed = true)
    (hquiet : ∀ d ∈ ds, d.closing = false)
    (hfound : outcome ≠ .fail (.invalid .batchNotTracked)) :
    LeaksNothing decoding ds (outcome, s) := by
  cases hs with
  | opened hs _ =>
    rw [hs.closed_eq] at hclosed
    cases hclosed
  | released hs houtcome => exact ⟨hs.attempted_eq, hs.acquired_eq, houtcome⟩
  | late hs _ =>
    obtain ⟨d, hd, hclosing⟩ := hs.closing
    rw [hquiet d (List.mem_of_mem_take hd)] at hclosing
    cases hclosing
  | untracked _ _ _ => exact absurd rfl hfound

/-! ## Closing -/

/-- Closing a closed stream in the middle of a call does nothing. -/
lemma closeWithin_of_closed (h : Handler ω β ι) {s : QueryStream ω β}
    (hclosed : s.closed = true) : closeWithin h s = (.ok (), s) := by
  simp only [closeWithin, hclosed, if_true]

/-- Where a stream stands between calls, unless the callback has kept a batch from being
released. -/
inductive Standing (decoding : Decoding ω β ι) (ds : List (Delivery β))
    (s : QueryStream (Recorded ω (StreamRecord β)) β) : Prop where
  /-- It has not been closed. -/
  | opened (hs : s.Open decoding ds)
  /-- It has been closed, and tracks nothing. -/
  | shut (hs : s.Shut ds)
  /-- It has been closed, and tracks a batch that arrived after that. -/
  | late {number : Nat} {b : β} (hs : s.Late ds number b)

/-- The end of a call is between calls. -/
lemma Ends.standing {decoding : Decoding ω β ι} {outcome : Outcome ι}
    (hs : Ends decoding ds s outcome) : s.Standing decoding ds := by
  cases hs with
  | opened hs _ => exact .opened hs
  | released hs _ => exact .shut hs
  | late hs _ => exact .late hs
  | untracked hs _ _ => exact .shut hs

/-- The callback has failed. -/
def CallbackFailed (s : QueryStream (Recorded ω (StreamRecord β)) β) : Prop :=
  ∃ fault, .calledBack (.error fault) ∈ s.world.records

/-- A closed stream that has released what it tracked, unless the callback has failed. -/
structure Halted (ds : List (Delivery β)) (s : QueryStream (Recorded ω (StreamRecord β)) β) :
    Prop where
  /-- Each batch is tracked until it is released. -/
  tracked : s.Tracked ds
  /-- The stream has been closed. -/
  closed_eq : s.closed = true
  /-- Nothing is tracked, or the callback has failed. -/
  released : s.acquired = [] ∨ s.CallbackFailed

/-- A stream whose callback failed at the end of a batch, which is neither released nor
tracked. -/
structure Lost (ds : List (Delivery β)) (b : β)
    (s : QueryStream (Recorded ω (StreamRecord β)) β) : Prop where
  /-- The release of every other batch has been attempted. -/
  batches : s.attempted ++ [b] = s.delivered ds
  /-- Nothing is tracked. -/
  acquired_eq : s.acquired = []
  /-- The iteration has ended. -/
  position_eq : s.position = .finished
  /-- The callback has failed. -/
  failed : s.CallbackFailed

/-- Where a stream stands between calls, whatever has failed. -/
inductive Rests (decoding : Decoding ω β ι) (ds : List (Delivery β))
    (s : QueryStream (Recorded ω (StreamRecord β)) β) : Prop where
  /-- The callback has not kept a batch from being released. -/
  | standing (hs : s.Standing decoding ds)
  /-- It has been closed, and what it tracked may have been kept from being released. -/
  | halted (hs : s.Halted ds)
  /-- One batch has been kept from being released. -/
  | lost {b : β} (hs : s.Lost ds b)

/-- A stream after a call in which a step of a release or of a closing has failed. -/
structure Disturbed (h : Handler ω β ι) (decoding : Decoding ω β ι) (ds : List (Delivery β))
    (s : QueryStream (Recorded ω (StreamRecord β)) β) : Prop where
  /-- Not everything succeeds. -/
  not_succeeds : ¬ h.Succeeds ds
  /-- Where the stream stands. -/
  rests : s.Rests decoding ds

/-- A closing that fails disturbs the call in whose middle it happens, and ends the iteration. -/
lemma Halted.disturbed_finish {decoding : Decoding ω β ι} (hs : s.Halted ds)
    (hfailed : ¬ h.Succeeds ds) : Disturbed h decoding ds s.finish :=
  ⟨hfailed, .halted ⟨hs.tracked.congr rfl rfl rfl, hs.closed_eq, hs.released⟩⟩

/-- **Closing shuts a stream in the middle of a call**, and leaves the call where it is, if it does
not fail. -/
lemma Tracked.exists_closeWithin (hs : s.Tracked ds) (h : Handler ω β ι)
    (hopen : s.closed = false) : ∃ result t, closeWithin h.recorded s = (result, t) ∧
      t.arrived = s.arrived ∧ (result = .ok () ∧ t.Shut ds ∨
        ∃ fault, result = .error fault ∧ ¬ h.Succeeds ds ∧ t.Halted ds) := by
  obtain ⟨records, result, t, hclose, hclosed⟩ := exists_closedBy h hopen
  have htracked := hs.closedBy hclosed
  refine ⟨result, t, hclose, hclosed.arrived_eq, ?_⟩
  have hreleases : ∀ b ∈ releasesOf records, ∃ d ∈ ds, d.batch = b := by
    intro b hb
    have hmem : b ∈ s.acquired.map Prod.snd := by
      rw [← hclosed.record.releases]
      exact List.mem_append_left _ hb
    obtain ⟨e, he, rfl⟩ := List.mem_map.1 hmem
    exact hs.exists_delivery he
  have hall : ∀ fault, result = .error fault → ¬ h.Succeeds ds := by
    intro fault hfault hh
    rw [hclosed.record.result_ok (hh.result_ok hclosed.of_handler hreleases)] at hfault
    cases hfault
  rcases hclosed.record.acquired_eq with hnone | ⟨-, -, fault, hfault, rfl⟩
  · cases result with
    | ok => exact .inl ⟨rfl, htracked, hclosed.closed_eq, hnone⟩
    | error fault =>
      exact .inr ⟨fault, rfl, hall fault rfl, htracked, hclosed.closed_eq, .inl hnone⟩
  · have hfailed : t.CallbackFailed := by
      rw [CallbackFailed, hclosed.records_eq]
      exact ⟨fault, List.mem_append_right _ hfault⟩
    exact .inr ⟨fault, rfl, hall fault rfl, htracked, hclosed.closed_eq, .inr hfailed⟩

/-! ## Inside a batch -/

/-- A stream inside a batch that it tracks, open or closed before this batch arrived. -/
structure Busy (ds : List (Delivery β)) (number : Nat) (b : β)
    (s : QueryStream (Recorded ω (StreamRecord β)) β) : Prop where
  /-- Each batch is tracked until it is released. -/
  tracked : s.Tracked ds
  /-- The batch is tracked. -/
  acquired_eq : s.acquired = [(number, b)]
  /-- The source has the batches that have not arrived. -/
  pending_eq : s.source.pending = ds.drop s.arrived
  /-- A stream that is closed was closed before a batch arrived. -/
  closing : s.closed = true → ∃ d ∈ ds.take s.arrived, d.closing = true

/-- A stream between two batches that are decoded. -/
structure Clear (ds : List (Delivery β)) (s : QueryStream (Recorded ω (StreamRecord β)) β) :
    Prop where
  /-- Each batch is tracked until it is released. -/
  tracked : s.Tracked ds
  /-- Nothing is tracked. -/
  acquired_eq : s.acquired = []
  /-- The source has the batches that have not arrived. -/
  pending_eq : s.source.pending = ds.drop s.arrived
  /-- A stream that is closed was closed before a batch arrived. -/
  closing : s.closed = true → ∃ d ∈ ds.take s.arrived, d.closing = true

section Steps

variable {count : β → Nat} {step : β → Nat → ω → DecodeStep ι × List Notice × ω} {number : Nat}
  {b : β}

/-- What is known of a stream inside a batch does not depend on where the iteration stands. -/
lemma Busy.congr (hs : s.Busy ds number b) (harrived : t.arrived = s.arrived)
    (hacquired : t.acquired = s.acquired) (hsource : t.source = s.source)
    (hclosed : t.closed = s.closed) (hrecords : t.world.records = s.world.records) :
    t.Busy ds number b where
  tracked := hs.tracked.congr harrived hacquired hrecords
  acquired_eq := by rw [hacquired, hs.acquired_eq]
  pending_eq := by rw [hsource, harrived, hs.pending_eq]
  closing hc := by
    rw [harrived]
    exact hs.closing (hclosed ▸ hc)

/-- A batch that is tracked was delivered. -/
lemma Busy.exists_delivery (hs : s.Busy ds number b) : ∃ d ∈ ds, d.batch = b := by
  have hmem : (number, b) ∈ s.acquired := by
    rw [hs.acquired_eq]
    exact List.mem_singleton_self _
  exact hs.tracked.exists_delivery hmem

/-- A call that ends inside a batch leaves it tracked: for the calls to come if the stream is open,
and for ever if it is closed. -/
lemma Busy.ends (hs : s.Busy ds number b) {outcome : Outcome ι}
    (hholds : s.Holds (.steps count step))
    (houtcome : Decoded (.steps count step) b outcome) :
    Ends (.steps count step) ds s outcome := by
  cases hclosed : s.closed with
  | false =>
    obtain ⟨d, hd, rfl⟩ := hs.exists_delivery
    exact .opened ⟨hs.tracked, hclosed, hs.pending_eq, hholds⟩ (.decoded hd houtcome)
  | true => exact .late ⟨hs.tracked, hclosed, hs.acquired_eq, hs.closing hclosed⟩ houtcome

/-- **The steps of a batch after its decoder has closed the stream.** The batch has been released
by the closing; the call ends at an item, at a failure, or at the end of the batch, which is
no longer tracked. -/
lemma Shut.runSteps (hs : s.Shut ds) (number : Nat) (b : β) (left i : Nat)
    (hleft : left ≤ count b - i) :
    ∃ outcome t, runSteps h.recorded (Decoding.recordedStep step) number b left i s =
      (some outcome, t) ∧ t.Shut ds ∧
      (Decoded (.steps count step) b outcome ∨ outcome = .fail (.invalid .batchNotTracked)) := by
  induction left generalizing i s with
  | zero =>
    have huntrack : untrack? number s.acquired = none := by simp [untrack?, hs.acquired_eq]
    simp only [QueryStream.runSteps, release, huntrack]
    exact ⟨_, _, rfl, ⟨hs.tracked.congr rfl rfl rfl, hs.closed_eq, hs.acquired_eq⟩, .inr rfl⟩
  | succ left ih =>
    have hi : i < count b := by omega
    simp only [QueryStream.runSteps, Decoding.recordedStep]
    rcases hstep : step b i s.world.world with ⟨result, notices, world⟩
    have hmakes : (Decoding.steps count step).Makes b result :=
      ⟨i, hi, s.world.world, congrArg Prod.fst hstep⟩
    have hshut : ∀ position, Shut ds
        { s with
          notices := s.notices ++ notices
          world := ⟨world, s.world.records⟩
          position } :=
      fun _ => ⟨hs.tracked.congr rfl rfl rfl, hs.closed_eq, hs.acquired_eq⟩
    cases result with
    | item x => exact ⟨_, _, rfl, hshut _, .inl (.item hmakes)⟩
    | fail fault => exact ⟨_, _, rfl, hshut _, .inl (.fail hmakes)⟩
    | close =>
      simp only [closeWithin_of_closed h.recorded (hshut s.position).closed_eq]
      exact ih (hshut s.position) (i + 1) (by omega)

/-- What the steps of a batch lead to: the end of the call, or else the next batch. -/
def Advances (decoding : Decoding ω β ι) (ds : List (Delivery β))
    (s t : QueryStream (Recorded ω (StreamRecord β)) β) : Option (Outcome ι) → Prop
  | some outcome => Ends decoding ds t outcome
  | none => t.Clear ds ∧ t.source = s.source ∧ t.arrived = s.arrived ∧ t.closed = s.closed ∧
      t.position = .between

/-- **The end of a batch that is tracked**, whatever fails: the next batch, or else the failure of
its release or of the callback. -/
lemma Busy.release (hs : s.Busy ds number b) (h : Handler ω β ι) (count : β → Nat)
    (step : β → Nat → ω → DecodeStep ι × List Notice × ω) : ∃ result t,
    QueryStream.release h.recorded number b s = (result, t) ∧
      (result = .ok () ∧ Clear ds { t with position := .between } ∧ t.source = s.source ∧
        t.arrived = s.arrived ∧ t.closed = s.closed ∨
      ∃ fault, result = .error fault ∧ Disturbed h (.steps count step) ds t.finish) := by
  obtain ⟨records, result, world, hrelease, hrecord, hof⟩ := exists_releaseRecord h hs.acquired_eq
  refine ⟨result, _, hrelease, ?_⟩
  have hreleases : ∀ b' ∈ releasesOf records, ∃ d ∈ ds, d.batch = b' := by
    obtain ⟨d, hd, rfl⟩ := hs.exists_delivery
    cases hrecord with
    | completed _ => simpa [releasesOf] using ⟨d, hd, rfl⟩
    | interrupted _ => simp [releasesOf]
  have hall : h.Succeeds ds → ∀ record ∈ records, record.result = .ok () :=
    fun hh => hh.result_ok hof hreleases
  cases hrecord with
  | completed _ =>
    have hw : releasesOf (s.world.records ++ [.calledBack (.ok ()), .released b result]) =
        s.attempted ++ [b] := by
      rw [releasesOf_append]
      rfl
    have htracked := hs.tracked.released hs.acquired_eq (w := ⟨world, _⟩) hw
    cases result with
    | ok => exact .inl ⟨rfl, ⟨htracked .between, rfl, hs.pending_eq, hs.closing⟩, rfl, rfl, rfl⟩
    | error fault =>
      refine .inr ⟨fault, rfl, fun hh => ?_, .standing ?_⟩
      · cases hall hh _ (List.mem_cons_of_mem _ (List.mem_singleton_self _))
      · rcases Bool.eq_false_or_eq_true s.closed with hclosed | hopen
        · exact .shut ⟨htracked .finished, hclosed, rfl⟩
        · exact .opened ⟨htracked .finished, hopen, hs.pending_eq, Nat.zero_le 1⟩
  | interrupted fault =>
    -- The batch was taken off before the callback was called, and nothing puts it back.
    refine .inr ⟨fault, rfl, fun hh => ?_, .lost (b := b) ⟨?_, rfl, rfl, fault, ?_⟩⟩
    · cases hall hh _ (List.mem_singleton_self _)
    · have hbatches := hs.tracked.batches
      rw [hs.acquired_eq] at hbatches
      have hattempted : releasesOf (s.world.records ++ [.calledBack (.error fault)]) =
          s.attempted := by
        rw [releasesOf_append]
        exact List.append_nil _
      rw [← hattempted] at hbatches
      exact hbatches
    · exact List.mem_append_right _ (List.mem_singleton_self _)

/-- **The steps of a batch that is tracked**, whatever fails.

**Proof sketch.** Induction on the steps that are left. Without any, the batch is released. A
decoder that closes an open stream leads to `Shut.runSteps`; closing a closed one does nothing. -/
theorem Busy.runSteps (hs : s.Busy ds number b) (h : Handler ω β ι)
    (step : β → Nat → ω → DecodeStep ι × List Notice × ω) (left i : Nat)
    (hleft : left ≤ count b - i) :
    Advances (.steps count step) ds s
        (runSteps h.recorded (Decoding.recordedStep step) number b left i s).2
        (runSteps h.recorded (Decoding.recordedStep step) number b left i s).1 ∨
      (runSteps h.recorded (Decoding.recordedStep step) number b left i s).1 ≠ none ∧
        Disturbed h (.steps count step) ds
          (runSteps h.recorded (Decoding.recordedStep step) number b left i s).2 := by
  induction left generalizing i s with
  | zero =>
    obtain ⟨result, t, hrelease, ⟨rfl, hclear, hsource, harrived, hclosed⟩ |
      ⟨fault, rfl, hdisturbed⟩⟩ := hs.release h count step
    · simp only [QueryStream.runSteps, hrelease]
      exact .inl ⟨hclear, hsource, harrived, hclosed, rfl⟩
    · simp only [QueryStream.runSteps, hrelease]
      exact .inr ⟨by simp, hdisturbed⟩
  | succ left ih =>
    have hi : i < count b := by omega
    simp only [QueryStream.runSteps, Decoding.recordedStep]
    rcases hstep : step b i s.world.world with ⟨result, notices, world⟩
    have hmakes : (Decoding.steps count step).Makes b result :=
      ⟨i, hi, s.world.world, congrArg Prod.fst hstep⟩
    have hbusy : ∀ position, Busy ds number b
        { s with
          notices := s.notices ++ notices
          world := ⟨world, s.world.records⟩
          position } :=
      fun _ => hs.congr rfl rfl rfl rfl rfl
    cases result with
    | item x => exact .inl ((hbusy _).ends hs.acquired_eq (.item hmakes))
    | fail fault =>
      have hone : s.acquired.length ≤ 1 := by simp [hs.acquired_eq]
      exact .inl ((hbusy _).ends hone (.fail hmakes))
    | close =>
      by_cases hclosed : s.closed = true
      · have hsame : closeWithin h.recorded { s with
            notices := s.notices ++ notices
            world := ⟨world, s.world.records⟩ } = (.ok (), _) := closeWithin_of_closed _ hclosed
        simp only [hsame]
        exact ih (hbusy s.position) (i + 1) (by omega)
      · rw [Bool.not_eq_true] at hclosed
        obtain ⟨result, t, hclose, -, ⟨rfl, hshut⟩ | ⟨fault, rfl, hfailed, hhalted⟩⟩ :=
          (hbusy s.position).tracked.exists_closeWithin h hclosed
        · simp only [hclose]
          have hrest : left ≤ count b - (i + 1) := by omega
          obtain ⟨outcome, u, hrun, hu, houtcome⟩ := hshut.runSteps number b left (i + 1) hrest
          rw [hrun]
          obtain ⟨d, hd, rfl⟩ := hs.exists_delivery
          rcases houtcome with houtcome | rfl
          · exact .inl (.released hu (.decoded hd houtcome))
          · exact .inl (.untracked hu hd hmakes)
        · simp only [hclose]
          exact .inr ⟨by simp, hhalted.disturbed_finish hfailed⟩

/-- A batch whose steps hand out nothing leads to the next one. -/
lemma Busy.advances (hs : s.Busy ds number b) {left i : Nat}
    (hrun : QueryStream.runSteps h.recorded (Decoding.recordedStep step) number b left i s =
      (none, t)) (hleft : left ≤ count b - i) : Advances (.steps count step) ds s t none := by
  have hleads := hs.runSteps h step left i hleft
  rw [hrun] at hleads
  exact hleads.resolve_right fun hdisturbed => hdisturbed.1 rfl

/-- A batch whose steps come to an outcome ends the call. -/
lemma Busy.ends_or_disturbed (hs : s.Busy ds number b) {left i : Nat} {outcome : Outcome ι}
    (hrun : QueryStream.runSteps h.recorded (Decoding.recordedStep step) number b left i s =
      (some outcome, t)) (hleft : left ≤ count b - i) :
    Ends (.steps count step) ds t outcome ∨ Disturbed h (.steps count step) ds t := by
  have hleads := hs.runSteps h step left i hleft
  rw [hrun] at hleads
  exact hleads.imp id And.right

/-! ## Pulling -/

/-- The end of the source leaves a stream shut that has been closed before. -/
lemma Shut.atEnd (hs : s.Shut ds) (h : Handler ω β ι) :
    (QueryStream.atEnd h.recorded s).1 = .stop ∧ (QueryStream.atEnd h.recorded s).2.Shut ds := by
  have hshut : Shut ds
      { s with source := { s.source with closed := true }, position := .finished } :=
    ⟨hs.tracked.congr rfl rfl rfl, hs.closed_eq, hs.acquired_eq⟩
  have hsame := closeWithin_of_closed h.recorded hshut.closed_eq
  cases hmode : h.decoding with
  | raw item =>
    simp only [QueryStream.atEnd, h.recorded_raw hmode]
    exact ⟨trivial, hshut⟩
  | steps count step =>
    simp only [QueryStream.atEnd, h.recorded_steps hmode, finish, hsame]
    exact ⟨trivial, hshut⟩

/-- **The end of the source** shuts a stream that decodes, whoever has closed it before, if the
closing does not fail. -/
lemma Clear.atEnd (hs : s.Clear ds) (hsteps : h.decoding = .steps count step) :
    Ends (.steps count step) ds (QueryStream.atEnd h.recorded s).2
        (QueryStream.atEnd h.recorded s).1 ∨
      Disturbed h (.steps count step) ds (QueryStream.atEnd h.recorded s).2 := by
  by_cases hclosed : s.closed = true
  · obtain ⟨hstop, hshut⟩ := Shut.atEnd ⟨hs.tracked, hclosed, hs.acquired_eq⟩ h
    rw [hstop]
    exact .inl (.released hshut .stop)
  · rw [Bool.not_eq_true] at hclosed
    have htracked : Tracked ds
        { s with source := { s.source with closed := true }, position := .finished } :=
      hs.tracked.congr rfl rfl rfl
    obtain ⟨result, t, hclose, -, ⟨rfl, hshut⟩ | ⟨fault, rfl, hfailed, hhalted⟩⟩ :=
      htracked.exists_closeWithin h hclosed
    · simp only [QueryStream.atEnd, h.recorded_steps hsteps, finish, hclose]
      exact .inl (.released hshut .stop)
    · simp only [QueryStream.atEnd, h.recorded_steps hsteps, finish, hclose]
      exact .inr ⟨hfailed, .halted hhalted⟩

/-- A stream that decodes is inside a batch once this has arrived. -/
lemma Clear.arrive (hs : s.Clear ds) {d : Delivery β} {rest : List (Delivery β)}
    (hpending : s.source.pending = d :: rest) : Busy ds s.arrived d.batch
      { s with
        source := { s.source with pending := rest }
        acquired := s.acquired ++ [(s.arrived, d.batch)]
        arrived := s.arrived + 1 } := by
  obtain ⟨htracked, hrest⟩ :=
    hs.tracked.arrive (by rw [← hs.pending_eq, hpending]) s.position
  refine ⟨htracked, by rw [hs.acquired_eq]; rfl, hrest, fun hclosed => ?_⟩
  obtain ⟨d, hd, hclosing⟩ := hs.closing hclosed
  exact ⟨d, List.take_subset_take_left ds (Nat.le_succ _) hd, hclosing⟩

/-- **A batch that arrives after the stream has been closed** is tracked all the same. -/
lemma Shut.arrive (hs : s.Shut ds) {d : Delivery β} {rest : List (Delivery β)}
    (hdrop : ds.drop s.arrived = d :: rest) (hclosing : d.closing = true)
    (position : Position β) : Busy ds s.arrived d.batch
      { s with
        source := { s.source with pending := rest }
        acquired := s.acquired ++ [(s.arrived, d.batch)]
        arrived := s.arrived + 1
        position } := by
  obtain ⟨htracked, hrest⟩ := hs.tracked.arrive hdrop position
  refine ⟨htracked, by rw [hs.acquired_eq]; rfl, hrest, fun _ => ⟨d, ?_, hclosing⟩⟩
  rw [List.take_add, hdrop]
  simp

/-- **A batch arrives**, perhaps after its source has closed the stream. -/
lemma Clear.exists_arrival (hs : s.Clear ds) (h : Handler ω β ι) (count : β → Nat)
    (step : β → Nat → ω → DecodeStep ι × List Notice × ω) {d : Delivery β}
    {rest : List (Delivery β)} (hpending : s.source.pending = d :: rest) : ∃ result t,
      (if d.closing then closeWithin h.recorded s else (.ok (), s)) = (result, t) ∧
      (result = .ok () ∧ Busy ds t.arrived d.batch
          { t with
            source := { t.source with pending := rest }
            acquired := t.acquired ++ [(t.arrived, d.batch)]
            arrived := t.arrived + 1 } ∨
        ∃ fault, result = .error fault ∧ Disturbed h (.steps count step) ds t.finish) := by
  by_cases hopen : s.closed = true
  · have hsame : (if d.closing then closeWithin h.recorded s else (.ok (), s)) = (.ok (), s) := by
      rw [closeWithin_of_closed _ hopen, ite_self]
    exact ⟨.ok (), s, hsame, .inl ⟨rfl, hs.arrive hpending⟩⟩
  · rw [Bool.not_eq_true] at hopen
    cases hclosing : d.closing with
    | false => exact ⟨.ok (), s, rfl, .inl ⟨rfl, hs.arrive hpending⟩⟩
    | true =>
      obtain ⟨result, t, hclose, harrived, ⟨rfl, hshut⟩ | ⟨fault, rfl, hfailed, hhalted⟩⟩ :=
        hs.tracked.exists_closeWithin h hopen
      · have hdrop : ds.drop t.arrived = d :: rest := by
          rw [harrived, ← hs.pending_eq, hpending]
        exact ⟨.ok (), t, hclose, .inl ⟨rfl, hshut.arrive hdrop hclosing t.position⟩⟩
      · exact ⟨.error fault, t, hclose, .inr ⟨fault, rfl, hhalted.disturbed_finish hfailed⟩⟩

/-- **Pulling batches that are decoded**, on a stream that is open or that its source has closed.

**Proof sketch.** Induction on the batches that are pending. Each is tracked when it arrives,
after the closing if its source closes the stream before it, and `Busy.runSteps` tells what
its steps lead to. -/
theorem Clear.pull (hs : s.Clear ds) (hsteps : h.decoding = .steps count step)
    (hposition : s.position = .between) {pending : List (Delivery β)}
    (hpending : s.source.pending = pending) :
    Ends (.steps count step) ds (QueryStream.pull h.recorded pending s).2
        (QueryStream.pull h.recorded pending s).1 ∨
      Disturbed h (.steps count step) ds (QueryStream.pull h.recorded pending s).2 := by
  have hdecoding := h.recorded_steps hsteps
  induction pending generalizing s with
  | nil =>
    simp only [QueryStream.pull]
    split
    · next fault _ hfault =>
      have htracked : Tracked ds s.finish := hs.tracked.congr rfl rfl rfl
      cases hopen : s.closed with
      | false =>
        have hone : s.acquired.length ≤ 1 := by simp [hs.acquired_eq]
        exact .inl (.opened ⟨htracked, hopen, hs.pending_eq, hone⟩ (.source hfault))
      | true => exact .inl (.released ⟨htracked, hopen, hs.acquired_eq⟩ (.source hfault))
    · exact hs.atEnd hsteps
  | cons d rest ih =>
    simp only [QueryStream.pull]
    split
    · exact hs.atEnd hsteps
    · obtain ⟨result, t, ht, ⟨rfl, hbusy⟩ | ⟨fault, rfl, hdisturbed⟩⟩ :=
        hs.exists_arrival h count step hpending
      · rw [ht]
        simp only [hdecoding]
        rcases hrun : QueryStream.runSteps h.recorded (Decoding.recordedStep step) t.arrived
          d.batch (count d.batch) 0 { t with
            source := { t.source with pending := rest }
            acquired := t.acquired ++ [(t.arrived, d.batch)]
            arrived := t.arrived + 1 } with ⟨_ | outcome, u⟩
        · obtain ⟨hclear, hsource, -, -, hbetween⟩ := hbusy.advances hrun (Nat.le_refl _)
          exact ih hclear hbetween (by rw [hsource])
        · exact hbusy.ends_or_disturbed hrun (Nat.le_refl _)
      · rw [ht]
        exact .inr hdisturbed

end Steps

/-- **Pulling a batch that is handed out as it is**: it is tracked from then on, by a closed stream
as well. -/
lemma Open.ends_pull {item : β → ι} (hs : s.Open (.raw item : Decoding ω β ι) ds)
    (hraw : h.decoding = .raw item) :
    Ends (.raw item : Decoding ω β ι) ds (QueryStream.pull h.recorded s.source.pending s).2
        (QueryStream.pull h.recorded s.source.pending s).1 ∨
      Disturbed h (.raw item) ds (QueryStream.pull h.recorded s.source.pending s).2 := by
  have hdecoding := h.recorded_raw hraw
  have hend : Ends (.raw item : Decoding ω β ι) ds (QueryStream.atEnd h.recorded s).2
      (QueryStream.atEnd h.recorded s).1 := by
    have hstop : (QueryStream.atEnd h.recorded s).1 = .stop := by
      simp only [QueryStream.atEnd, hdecoding]
    rw [hstop]
    exact .opened (hs.atEnd hraw) .stop
  cases hpending : s.source.pending with
  | nil =>
    simp only [QueryStream.pull]
    split
    · next fault _ hfault =>
      exact .inl (.opened ⟨hs.tracked.congr rfl rfl rfl, hs.closed_eq, hs.pending_eq, hs.holds⟩
        (.source hfault))
    · exact .inl hend
  | cons d rest =>
    have hgiven : Decoded (.raw item : Decoding ω β ι) d.batch (.item (item d.batch)) := .item rfl
    simp only [QueryStream.pull, hdecoding]
    split
    · exact .inl hend
    · cases hclosing : d.closing with
      | false =>
        obtain ⟨htracked, hrest⟩ := hs.arrive hpending .between
        exact .inl (.opened ⟨htracked, hs.closed_eq, hrest, hs.holds⟩
          (.decoded (hs.mem_of_pending hpending) hgiven))
      | true =>
        obtain ⟨result, t, hclose, harrived, ⟨rfl, hshut⟩ | ⟨fault, rfl, hfailed, hhalted⟩⟩ :=
          hs.tracked.exists_closeWithin h hs.closed_eq
        · have hdrop : ds.drop t.arrived = d :: rest := by
            rw [harrived, ← hs.pending_eq, hpending]
          have hbusy := hshut.arrive hdrop hclosing .between
          simp only [if_true, hclose]
          exact .inl (.late ⟨hbusy.tracked, hshut.closed_eq, hbusy.acquired_eq,
            hbusy.closing hshut.closed_eq⟩ hgiven)
        · simp only [if_true, hclose]
          exact .inr (hhalted.disturbed_finish hfailed)

/-! ## Calls -/

/-- A stream that is open inside a batch tracks it. -/
lemma Open.busy {count : β → Nat} {step : β → Nat → ω → DecodeStep ι × List Notice × ω}
    (hs : s.Open (.steps count step) ds) {number : Nat} {b : β} {i : Nat}
    (hposition : s.position = .within number b i) : s.Busy ds number b where
  tracked := hs.tracked
  acquired_eq := by
    have hholds := hs.holds
    simpa only [Holds, hposition] using hholds
  pending_eq := hs.pending_eq
  closing hclosed := by
    rw [hs.closed_eq] at hclosed
    cases hclosed

/-- A stream that is open between batches tracks none of them. -/
lemma Open.clear {count : β → Nat} {step : β → Nat → ω → DecodeStep ι × List Notice × ω}
    (hs : s.Open (.steps count step) ds) (hposition : s.position = .between) : s.Clear ds where
  tracked := hs.tracked
  acquired_eq := by
    have hholds := hs.holds
    simpa only [Holds, hposition] using hholds
  pending_eq := hs.pending_eq
  closing hclosed := by
    rw [hs.closed_eq] at hclosed
    cases hclosed

/-- **How a call for the next item ends**, wherever the stream is closed in the middle of it and
whatever fails. -/
theorem Open.ends_or_disturbed_next (hs : s.Open h.decoding ds) :
    Ends h.decoding ds (QueryStream.next h.recorded s).2 (QueryStream.next h.recorded s).1 ∨
      Disturbed h h.decoding ds (QueryStream.next h.recorded s).2 := by
  have hopen : ¬ s.closed = true := by simp [hs.closed_eq]
  rw [QueryStream.next, if_neg hopen]
  cases hmode : h.decoding with
  | raw item =>
    have hrecorded := h.recorded_raw hmode
    rw [hmode] at hs
    simp only [hrecorded]
    split
    · exact .inl (.opened hs .stop)
    · exact hs.ends_pull hmode
    · exact .inl (.opened hs .stop)
  | steps count step =>
    have hrecorded := h.recorded_steps hmode
    rw [hmode] at hs
    simp only [hrecorded]
    split
    · exact .inl (.opened hs .stop)
    · next hposition => exact (hs.clear hposition).pull hmode hposition rfl
    · next number b i hposition =>
      rcases hrun : QueryStream.runSteps h.recorded (Decoding.recordedStep step) number b
        (count b - i) i s with ⟨_ | outcome, t⟩
      · obtain ⟨hclear, -, -, -, hbetween⟩ :=
          (hs.busy hposition).advances hrun (Nat.le_refl _)
        exact hclear.pull hmode hbetween rfl
      · exact (hs.busy hposition).ends_or_disturbed hrun (Nat.le_refl _)

/-- How a call for the next item ends if closing, releasing and calling back succeed. -/
lemma Open.ends_next (hs : s.Open h.decoding ds) (hh : h.Succeeds ds) :
    Ends h.decoding ds (QueryStream.next h.recorded s).2 (QueryStream.next h.recorded s).1 :=
  hs.ends_or_disturbed_next.resolve_right fun hdisturbed => hdisturbed.not_succeeds hh

/-! ## Waiting for the source -/

/-- The points at which a call for the next item waits for its source, with the batches that
are pending there: at first, and after each batch that nothing came out of. -/
inductive Waits (h : Handler ω β ι) (s : QueryStream ω β) :
    List (Delivery β) → QueryStream ω β → Prop where
  | start (hposition : s.position = .between) : Waits h s s.source.pending s
  | resumed {count : β → Nat} {step : β → Nat → ω → DecodeStep ι × List Notice × ω} {number : Nat}
    {b : β} {i : Nat} {t : QueryStream ω β} (hsteps : h.decoding = .steps count step)
    (hposition : s.position = .within number b i)
    (hrun : runSteps h step number b (count b - i) i s = (none, t)) : Waits h s t.source.pending t
  | pulled {count : β → Nat} {step : β → Nat → ω → DecodeStep ι × List Notice × ω}
    {d : Delivery β} {rest : List (Delivery β)} {t u : QueryStream ω β}
    (hsteps : h.decoding = .steps count step) (ht : Waits h s (d :: rest) t)
    (hsource : t.source.closed = false) (hclosing : d.closing = false)
    (hrun : runSteps h step t.arrived d.batch (count d.batch) 0
      { t with
        source := { t.source with pending := rest }
        acquired := t.acquired ++ [(t.arrived, d.batch)]
        arrived := t.arrived + 1 } = (none, u)) : Waits h s rest u

/-- What a call comes to is what it comes to from where it waits. -/
lemma Waits.next_eq {h : Handler ω β ι} {s t : QueryStream ω β} {pending : List (Delivery β)}
    (ht : Waits h s pending t) (hopen : s.closed = false) : next h s = pull h pending t := by
  have hnot : ¬ s.closed = true := by simp [hopen]
  induction ht with
  | start hposition => simp only [next, if_neg hnot, hposition]
  | resumed hsteps hposition hrun => simp only [next, if_neg hnot, hposition, hsteps, hrun]
  | @pulled _ _ _ _ t _ hsteps _ hsource hclosing hrun ih =>
    have hsource : ¬ t.source.closed = true := by simp [hsource]
    simp only [ih, pull, if_neg hsource, hclosing, Bool.false_eq_true, if_false, hsteps, hrun]

/-- A call that waits for its source tracks what the stream tracked before, and nothing more. -/
lemma Waits.tracked (hs : s.Open h.decoding ds) {pending : List (Delivery β)}
    (ht : Waits h.recorded s pending t) :
    t.Tracked ds ∧ t.closed = false := by
  cases hmode : h.decoding with
  | raw item =>
    have hrecorded := h.recorded_raw hmode
    cases ht with
    | start _ => exact ⟨hs.tracked, hs.closed_eq⟩
    | resumed hsteps _ _ =>
      rw [hrecorded] at hsteps
      cases hsteps
    | pulled hsteps _ _ _ _ =>
      rw [hrecorded] at hsteps
      cases hsteps
  | steps count step =>
    have hrecorded := h.recorded_steps hmode
    rw [hmode] at hs
    have hclear : t.Clear ds ∧ t.closed = false ∧ t.source.pending = pending := by
      induction ht with
      | start hposition => exact ⟨hs.clear hposition, hs.closed_eq, rfl⟩
      | resumed hsteps hposition hrun =>
        rw [hrecorded] at hsteps
        cases hsteps
        obtain ⟨hclear, -, -, hclosed, -⟩ :=
          (hs.busy hposition).advances hrun (Nat.le_refl _)
        exact ⟨hclear, by rw [hclosed, hs.closed_eq], rfl⟩
      | pulled hsteps _ _ _ hrun ih =>
        rw [hrecorded] at hsteps
        cases hsteps
        obtain ⟨hclear, hclosed, hpending⟩ := ih
        obtain ⟨hclear, hsource, -, hclosed', -⟩ :=
          (hclear.arrive hpending).advances hrun (Nat.le_refl _)
        exact ⟨hclear, by rw [hclosed', hclosed], by rw [hsource]⟩
    exact ⟨hclear.1.tracked, hclear.2.1⟩

/-- **Closing a stream whose call waits for the source**, if no further batch arrives: the
call comes to the end or to the failure of the source, and every batch has been released. -/
theorem Waits.closed (hs : s.Open h.decoding ds) (hh : h.Succeeds ds)
    {pending : List (Delivery β)} (ht : Waits h.recorded s pending t) :
    ∃ u, closeWithin h.recorded t = (.ok (), u) ∧ ∀ failure closed,
      let ended := QueryStream.pull h.recorded [] { u with source := ⟨[], failure, closed⟩ }
      ended.2.Shut ds ∧ Expected h.decoding [] failure ended.1 := by
  obtain ⟨htracked, hopen⟩ := ht.tracked hs
  obtain ⟨result, u, hclose, -, ⟨rfl, hshut⟩ | ⟨fault, -, hfailed, -⟩⟩ :=
    htracked.exists_closeWithin h hopen
  · refine ⟨u, hclose, fun failure closed => ?_⟩
    have hnone : Shut ds { u with source := ⟨[], failure, closed⟩ } :=
      ⟨hshut.tracked.congr rfl rfl rfl, hshut.closed_eq, hshut.acquired_eq⟩
    simp only [QueryStream.pull]
    split
    · next fault _ =>
      exact ⟨⟨hnone.tracked.congr rfl rfl rfl, hnone.closed_eq, hnone.acquired_eq⟩, .source rfl⟩
    · obtain ⟨hstop, hended⟩ := hnone.atEnd h
      rw [hstop]
      exact ⟨hended, .stop⟩
  · exact absurd hh hfailed

/-! ## Runs -/

/-- Calls do nothing to a closed stream. -/
lemma run_of_closed (h : Handler ω β ι) {s : QueryStream ω β} (hclosed : s.closed = true)
    (calls : List Call) : run h s calls = s := by
  induction calls with
  | nil => rfl
  | cons call calls ih =>
    have hcall : after h s call = s := by
      cases call with
      | next => rw [after, next_of_closed _ _ hclosed]
      | close => rw [after, close_of_closed _ _ hclosed]
    rw [run, List.foldl_cons, hcall]
    exact ih

/-- A call leads from one standing to another. -/
lemma Standing.after (hs : s.Standing h.decoding ds) (hh : h.Succeeds ds) (call : Call) :
    (after h.recorded s call).Standing h.decoding ds := by
  have hclosed : s.closed = true → QueryStream.after h.recorded s call = s :=
    fun hclosed => run_of_closed h.recorded hclosed [call]
  cases hs with
  | opened hs =>
    cases call with
    | next => exact (hs.ends_next hh).standing
    | close => exact .shut (hs.close hh.callback)
  | shut hs =>
    rw [hclosed hs.closed_eq]
    exact .shut hs
  | late hs =>
    rw [hclosed hs.closed_eq]
    exact .late hs

/-- Calls lead from one standing to another. -/
lemma Standing.run (hs : s.Standing h.decoding ds) (hh : h.Succeeds ds) (calls : List Call) :
    (run h.recorded s calls).Standing h.decoding ds := by
  induction calls generalizing s with
  | nil => exact hs
  | cons call calls ih => exact ih (hs.after hh call)

/-- What holds of a stream that may be closed in the middle of a call. -/
structure Interrupted (h : Handler ω β ι) (ds : List (Delivery β))
    (s : QueryStream (Recorded ω (StreamRecord β)) β) : Prop where
  /-- How the next call ends. -/
  ends : s.closed = false →
    Ends h.decoding ds (QueryStream.next h.recorded s).2 (QueryStream.next h.recorded s).1
  /-- How the next call ends if somebody else closes the stream while it waits for the source,
  and no further batch arrives. -/
  waits : s.closed = false → ∀ pending t, Waits h.recorded s pending t →
    QueryStream.next h.recorded s = QueryStream.pull h.recorded pending t ∧
    ∃ u, closeWithin h.recorded t = (.ok (), u) ∧ ∀ failure closed,
      let ended := QueryStream.pull h.recorded [] { u with source := ⟨[], failure, closed⟩ }
      ended.2.Shut ds ∧ Expected h.decoding [] failure ended.1
  /-- A closed stream has released every batch or is late with one, and stays as it is. -/
  kept : s.closed = true → (s.Shut ds ∨ ∃ number b, s.Late ds number b) ∧
    ∀ calls, QueryStream.run h.recorded s calls = s

/-- **Closing a stream in the middle of a call.** After any calls, if closing and releasing
succeed, the next call ends in one of four ways: the stream is still open; it is closed and
every batch has been released once; a batch that arrived after the closing stays tracked for
ever, although something came out of it; or the decoder closed the stream and the call fails at
the end of its batch. If no batch arrives after the closing, every batch has been released.

**Proof sketch.** Induction on the calls leads to where the stream stands (`Standing.run`), and
`Open.ends_next` and `Waits.closed` tell how the next call ends from there. -/
theorem interrupted_run (h : Handler ω β ι) (source : Source β) (hh : h.Succeeds source.pending)
    (world : ω) (calls : List Call) :
    (run h.recorded (new source ⟨world, []⟩) calls).Interrupted h source.pending := by
  have hnew : (new source ⟨world, []⟩ : QueryStream _ β).Open h.decoding source.pending := by
    refine ⟨⟨Nat.zero_le _, rfl, rfl⟩, rfl, rfl, ?_⟩
    cases h.decoding <;> rfl
  have hstanding := (Standing.opened hnew).run hh calls
  generalize run h.recorded (new source ⟨world, []⟩) calls = s at hstanding
  cases hstanding with
  | opened hs =>
    refine ⟨fun _ => hs.ends_next hh,
      fun _ _ _ ht => ⟨ht.next_eq hs.closed_eq, ht.closed hs hh⟩, fun hclosed => ?_⟩
    rw [hs.closed_eq] at hclosed
    cases hclosed
  | shut hs =>
    have hne : s.closed ≠ false := by simp [hs.closed_eq]
    exact ⟨fun hopen => absurd hopen hne, fun hopen => absurd hopen hne,
      fun hclosed => ⟨.inl hs, run_of_closed h.recorded hclosed⟩⟩
  | late hs =>
    have hne : s.closed ≠ false := by simp [hs.closed_eq]
    exact ⟨fun hopen => absurd hopen hne, fun hopen => absurd hopen hne,
      fun hclosed => ⟨.inr ⟨_, _, hs⟩, run_of_closed h.recorded hclosed⟩⟩

/-- A batch whose decoder closes the stream in its only step. -/
def hastyBatch : ScriptBatch := ⟨0, [.close], none, false⟩

/-- A batch with one item. -/
def plainBatch : ScriptBatch := ⟨0, [.item (.int 1)], none, false⟩

/-- A source of one batch. -/
def sourceOf (b : ScriptBatch) (closing : Bool) : Source ScriptBatch :=
  ⟨[⟨b, closing⟩], none, false⟩

/-- Releasing a batch of a script succeeds if the script does not say otherwise. -/
lemma succeeds_script {script : Script} (hfailures : script.closeFailures = 0)
    {ds : List (Delivery ScriptBatch)} (hds : ∀ d ∈ ds, d.batch.failure = none) :
    script.handler.Succeeds ds where
  closeSource _ t := by simp [Script.handler, Script.closeSource, hfailures]
  releaseBatch d hd t := by
    simp only [Script.handler, Script.releaseBatch, hds d hd]
    split <;> rfl
  callback _ := rfl

/-- A stream whose decoder closes it is no exception. -/
theorem interrupted_hastyBatch :
    (Script.handler ⟨0, true, true⟩).Succeeds (sourceOf hastyBatch false).pending ∧
    (run (Script.handler ⟨0, true, true⟩).recorded (new (sourceOf hastyBatch false)
      ⟨⟨0, [0], 0⟩, []⟩) []).Interrupted (Script.handler ⟨0, true, true⟩)
      (sourceOf hastyBatch false).pending := by
  have hsucceeds : (Script.handler ⟨0, true, true⟩).Succeeds
      (sourceOf hastyBatch false).pending := by
    refine succeeds_script rfl fun d hd => ?_
    simp only [sourceOf, List.mem_singleton] at hd
    rw [hd]
    rfl
  exact ⟨hsucceeds, interrupted_run _ _ hsucceeds _ _⟩

/-- **Closing in the middle of a call can leak**: a decoder that closes the stream at the end of
its batch makes the call fail, and a batch that arrives after the closing stays tracked. -/
theorem not_leaksNothing :
    ¬ LeaksNothing (Script.handler ⟨0, true, true⟩).decoding (sourceOf hastyBatch false).pending
      (next (Script.handler ⟨0, true, true⟩).recorded
        (new (sourceOf hastyBatch false) ⟨⟨0, [0], 0⟩, []⟩)) ∧
    ¬ LeaksNothing (Script.handler ⟨0, true, true⟩).decoding (sourceOf plainBatch true).pending
      (next (Script.handler ⟨0, true, true⟩).recorded
        (new (sourceOf plainBatch true) ⟨⟨0, [0], 0⟩, []⟩)) := by
  constructor
  · intro hnone
    have hfail : (next (Script.handler ⟨0, true, true⟩).recorded
        (new (sourceOf hastyBatch false) ⟨⟨0, [0], 0⟩, []⟩)).1 =
        .fail (.invalid .batchNotTracked) := rfl
    have hexpected := hnone.expected
    rw [hfail] at hexpected
    cases hexpected with
    | source hfault => cases hfault
    | decoded hd houtcome =>
      obtain rfl := List.mem_singleton.1 hd
      cases houtcome with
      | fail hmakes =>
        obtain ⟨i, hi, w, hstep⟩ := hmakes
        obtain rfl : i = 0 := Nat.lt_one_iff.1 hi
        cases hstep
  · intro hnone
    cases hnone.acquired_eq

end QueryStream

end SeriesClient
