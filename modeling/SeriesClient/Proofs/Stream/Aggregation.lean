import SeriesClient.Proofs.Stream.Closing

set_option relaxedAutoImplicit false
set_option autoImplicit false

/-!
# Closing attempts every release and raises every failure

Closing a stream attempts to release each batch that has arrived and was not released before, and
raises the failures that it meets together. The callback is the exception: it is not guarded,
neither in a closing nor at the end of a batch.

## Main definitions

* `SeriesClient.QueryStream.ReleasesAll` — what is expected of a closing.
* `SeriesClient.QueryStream.Missed` — the batches whose release is never attempted, and why.
* `SeriesClient.QueryStream.Closes` — what a closing does.

## Main results

* `SeriesClient.QueryStream.closes_run` — what a closing does after any calls, whatever fails.
* `SeriesClient.QueryStream.not_releasesAll` — a callback that fails makes releases be skipped.
-/

namespace SeriesClient

variable {ω β ι : Type}

namespace QueryStream

/-- What is expected of a call that closes a stream: the release of each batch that has arrived has
been attempted once, and every failure in the closing is among those that it raises. -/
structure ReleasesAll (ds : List (Delivery β))
    (s : QueryStream (Recorded ω (StreamRecord β)) β)
    (ended : Except Fault Unit × QueryStream (Recorded ω (StreamRecord β)) β) : Prop where
  /-- The release of each batch has been attempted once. -/
  attempted_eq : ended.2.attempted = ended.2.delivered ds
  /-- Each failure is raised. -/
  raised : ∀ records, ended.2.world.records = s.world.records ++ records →
    ∀ fault ∈ failuresOf records,
      ∃ errors, ended.1 = .error (.streamClose errors) ∧ fault ∈ errors

/-- The batches that have arrived at a closed stream and whose release is never attempted, and
why. -/
inductive Missed (ds : List (Delivery β)) (s : QueryStream (Recorded ω (StreamRecord β)) β) :
    List β → Prop where
  /-- There are none, and nothing is tracked. -/
  | nothing (hacquired : s.acquired = []) : Missed ds s []
  /-- The callback failed in the closing: what was tracked then. -/
  | tracked (hfailed : s.CallbackFailed) : Missed ds s (s.acquired.map Prod.snd)
  /-- The callback failed at the end of a batch: this batch. -/
  | lost {b : β} (hfailed : s.CallbackFailed) (hacquired : s.acquired = []) : Missed ds s [b]
  /-- A batch arrived after the closing, and the call ended inside it. -/
  | late {number : Nat} {b : β} (hacquired : s.acquired = [(number, b)])
    (hclosing : ∃ d ∈ ds.take s.arrived, d.closing = true) : Missed ds s [b]

/-- What closing a stream does. -/
structure Closes (h : Handler ω β ι) (ds : List (Delivery β))
    (s : QueryStream (Recorded ω (StreamRecord β)) β) : Prop where
  /-- A stream that has been closed stays as it is. -/
  again : s.closed = true → close h.recorded s = (.ok (), s)
  /-- The steps of closing an open stream, and what they come to. -/
  closedBy : s.closed = false → ∃ records,
    ClosedBy h records (close h.recorded s).1 s.finish (close h.recorded s).2
  /-- The releases have been attempted in the order of arrival, each once, but for the last
  batches if there is a reason. -/
  missed : ∃ bs, (close h.recorded s).2.attempted ++ bs = (close h.recorded s).2.delivered ds ∧
    Missed ds (close h.recorded s).2 bs
  /-- A closing is as expected if the callback has never failed and no batch arrives at a closed
  stream. -/
  releasesAll : ¬ (close h.recorded s).2.CallbackFailed →
    (∀ d ∈ ds.take (close h.recorded s).2.arrived, d.closing = false) →
    ReleasesAll ds s (close h.recorded s)
  /-- What is missed once is missed for ever: no call changes the stream any more. -/
  kept : ∀ calls, run h.recorded (close h.recorded s).2 calls = (close h.recorded s).2

variable {h : Handler ω β ι} {ds : List (Delivery β)}
  {s t : QueryStream (Recorded ω (StreamRecord β)) β}

/-! ## Closing between calls -/

/-- Closing an open stream between calls ends its iteration. -/
lemma close_of_open (h : Handler ω β ι) {s : QueryStream ω β} (hopen : s.closed = false) :
    close h s = closeWithin h s.finish := by
  simp only [close, hopen, Bool.false_eq_true, if_false, finish]

/-- Closing a stream that has lost a batch does not find it again. -/
lemma Lost.closedBy {b : β} (hs : s.Lost ds b) {records : List (StreamRecord β)}
    {result : Except Fault Unit} (hclosed : ClosedBy h records result s.finish t) :
    t.Lost ds b := by
  have hreleases := hclosed.record.releases
  rw [show s.finish.acquired = [] from hs.acquired_eq, List.map_nil, List.append_eq_nil_iff,
    List.map_eq_nil_iff] at hreleases
  have hattempted : t.attempted = s.attempted := by
    rw [attempted, hclosed.records_eq, releasesOf_append, hreleases.1, List.append_nil]
    rfl
  have hdelivered : t.delivered ds = s.delivered ds := by
    rw [delivered, hclosed.arrived_eq]
    rfl
  obtain ⟨fault, hfault⟩ := hs.failed
  refine ⟨by rw [hattempted, hdelivered, hs.batches], hreleases.2, hclosed.position_eq, fault, ?_⟩
  rw [hclosed.records_eq]
  exact List.mem_append_left _ hfault

/-- Closing a stream that has lost no batch halts it. -/
lemma Tracked.halted_close (hs : s.Tracked ds) (h : Handler ω β ι) (hopen : s.closed = false) :
    (close h.recorded s).2.Halted ds := by
  have htracked : s.finish.Tracked ds := hs.congr rfl rfl rfl
  rw [close_of_open h.recorded hopen]
  obtain ⟨result, t, hclose, -, ⟨-, hshut⟩ | ⟨-, -, -, hhalted⟩⟩ :=
    htracked.exists_closeWithin h hopen
  · rw [hclose]
    exact ⟨hshut.tracked, hshut.closed_eq, .inl hshut.acquired_eq⟩
  · rw [hclose]
    exact hhalted

/-- A stream that is open between calls is as it should be, or has lost a batch. -/
lemma Rests.open_or_lost {decoding : Decoding ω β ι} (hs : s.Rests decoding ds)
    (hopen : s.closed = false) : s.Open decoding ds ∨ ∃ b, s.Lost ds b := by
  have hne : s.closed ≠ true := by simp [hopen]
  cases hs with
  | standing hs =>
    cases hs with
    | opened hs => exact .inl hs
    | shut hs => exact absurd hs.closed_eq hne
    | late hs => exact absurd hs.closed_eq hne
  | halted hs => exact absurd hs.closed_eq hne
  | lost hs => exact .inr ⟨_, hs⟩

/-- A call leads from one rest to another, whatever fails. -/
lemma Rests.after (hs : s.Rests h.decoding ds) (call : Call) :
    (after h.recorded s call).Rests h.decoding ds := by
  by_cases hclosed : s.closed = true
  · have hsame : QueryStream.after h.recorded s call = s :=
      run_of_closed h.recorded hclosed [call]
    rw [hsame]
    exact hs
  · rw [Bool.not_eq_true] at hclosed
    rcases hs.open_or_lost hclosed with hs | ⟨b, hs⟩
    · cases call with
      | next => exact hs.ends_or_disturbed_next.elim (.standing ·.standing) (·.rests)
      | close => exact .halted (hs.tracked.halted_close h hclosed)
    · cases call with
      | next =>
        have hstop : next h.recorded s = (.stop, s) := by
          simp only [next, hclosed, Bool.false_eq_true, if_false, hs.position_eq]
        rw [QueryStream.after, hstop]
        exact .lost hs
      | close =>
        obtain ⟨records, result, t, hclose, hclosedBy⟩ :=
          exists_closedBy (s := s.finish) h hclosed
        rw [QueryStream.after, close_of_open h.recorded hclosed, hclose]
        exact .lost (hs.closedBy hclosedBy)

/-- Calls lead from one rest to another, whatever fails. -/
lemma Rests.run (hs : s.Rests h.decoding ds) (calls : List Call) :
    (run h.recorded s calls).Rests h.decoding ds := by
  induction calls generalizing s with
  | nil => exact hs
  | cons call calls ih => exact ih (hs.after call)

/-! ## What is missed -/

/-- The batches whose release a closed stream has not attempted. -/
lemma Rests.exists_missed {decoding : Decoding ω β ι} (hs : s.Rests decoding ds)
    (hclosed : s.closed = true) :
    ∃ bs, s.attempted ++ bs = s.delivered ds ∧ Missed ds s bs := by
  cases hs with
  | standing hs =>
    cases hs with
    | opened hs =>
      rw [hs.closed_eq] at hclosed
      cases hclosed
    | shut hs => exact ⟨[], by rw [List.append_nil, hs.attempted_eq], .nothing hs.acquired_eq⟩
    | @late number b hs =>
      refine ⟨[b], ?_, .late hs.acquired_eq hs.closing⟩
      rw [← hs.tracked.batches, hs.acquired_eq]
      rfl
  | halted hs =>
    rcases hs.released with hnone | hfailed
    · have hbatches := hs.tracked.batches
      rw [hnone] at hbatches
      exact ⟨[], hbatches, .nothing hnone⟩
    · exact ⟨_, hs.tracked.batches, .tracked hfailed⟩
  | lost hs => exact ⟨_, hs.batches, .lost hs.failed hs.acquired_eq⟩

/-- Nothing is missed without a reason. -/
lemma Missed.eq_nil {bs : List β} (hmissed : Missed ds s bs) (hback : ¬ s.CallbackFailed)
    (hquiet : ∀ d ∈ ds.take s.arrived, d.closing = false) : bs = [] := by
  cases hmissed with
  | nothing _ => rfl
  | tracked hfailed => exact absurd hfailed hback
  | lost hfailed _ => exact absurd hfailed hback
  | late _ hclosing =>
    obtain ⟨d, hd, hclosing⟩ := hclosing
    rw [hquiet d hd] at hclosing
    cases hclosing

/-- **A closing raises all its failures** if its callback returns. -/
lemma ClosedBy.exists_raised {records : List (StreamRecord β)} {result : Except Fault Unit}
    (hclosed : ClosedBy h records result s t) (hback : ¬ t.CallbackFailed) {fault : Fault}
    (hfault : fault ∈ failuresOf records) :
    ∃ errors, result = .error (.streamClose errors) ∧ fault ∈ errors := by
  have hreturns : ∀ fault, .calledBack (.error fault) ∉ records := by
    intro fault hmem
    refine hback ⟨fault, ?_⟩
    rw [hclosed.records_eq]
    exact List.mem_append_right _ hmem
  rw [(hclosed.record.result_eq hreturns).2]
  exact SeriesClient.exists_raised hfault

/-- **Closing a stream after any calls, whatever fails.** The source is closed, a second time if the
first fails; the callback is called; the release of each tracked batch is attempted; and all
failures are raised together. Afterwards the release of each batch has been attempted once, unless
the callback has failed or a batch has arrived at a closed stream.

**Proof sketch.** Induction on the calls leads to where the stream stands (`Rests.run`),
`exists_closedBy` tells the steps of the closing, and `Rests.exists_missed` what has not been
released after it. -/
theorem closes_run (h : Handler ω β ι) (source : Source β) (world : ω) (calls : List Call) :
    (run h.recorded (new source ⟨world, []⟩) calls).Closes h source.pending := by
  have hnew : (new source ⟨world, []⟩ : QueryStream _ β).Open h.decoding source.pending := by
    refine ⟨⟨Nat.zero_le _, rfl, rfl⟩, rfl, rfl, ?_⟩
    cases h.decoding <;> rfl
  have hs := (Rests.standing (.opened hnew)).run calls
  generalize run h.recorded (new source ⟨world, []⟩) calls = s at hs
  have hagain := close_of_closed h.recorded s
  have hsteps : s.closed = false → ∃ records,
      ClosedBy h records (close h.recorded s).1 s.finish (close h.recorded s).2 := by
    intro hopen
    obtain ⟨records, result, t, hclose, hclosed⟩ := exists_closedBy (s := s.finish) h hopen
    rw [close_of_open h.recorded hopen, hclose]
    exact ⟨records, hclosed⟩
  have hclosed : (close h.recorded s).2.closed = true := by
    by_cases hclosed : s.closed = true
    · rw [hagain hclosed, hclosed]
    · obtain ⟨records, hsteps⟩ := hsteps (by simpa using hclosed)
      exact hsteps.closed_eq
  obtain ⟨bs, hbatches, hmissed⟩ := (hs.after .close).exists_missed hclosed
  refine ⟨hagain, hsteps, ⟨bs, hbatches, hmissed⟩, fun hback hquiet => ⟨?_, ?_⟩,
    run_of_closed h.recorded hclosed⟩
  · rw [hmissed.eq_nil hback hquiet, List.append_nil] at hbatches
    exact hbatches
  · intro records hrecords fault hfault
    by_cases hopen : s.closed = true
    · rw [hagain hopen, List.self_eq_append_right] at hrecords
      rw [hrecords] at hfault
      cases hfault
    · obtain ⟨steps, hsteps⟩ := hsteps (by simpa using hopen)
      have hsame : s.world.records ++ steps = s.world.records ++ records := by
        rw [← hrecords, hsteps.records_eq]
        rfl
      rw [← List.append_cancel_left hsame] at hfault
      exact hsteps.exists_raised hback hfault

/-! ## A callback that fails -/

/-- A stream's view of a script whose callback fails at its first call. -/
def hastyCallback (script : Script) : Handler Tally ScriptBatch Value :=
  { script.handler with
    callback := fun t =>
      (if t.callbacks = 0 then .error (.runtime "callback failed") else .ok (),
        (script.callback t).2) }

/-- **A callback that fails makes releases be skipped and failures be lost.** If it fails in a
closing, the batch that is tracked is not released, and the failures to close the source are not
raised; if it fails at the end of a batch, this batch is not released. The callback itself is
skipped at the end of a batch whose decoder has closed the stream, where the batch is not
found. -/
theorem not_releasesAll :
    ¬ ReleasesAll (sourceOf plainBatch false).pending
      (run (hastyCallback ⟨0, true, false⟩).recorded
        (new (sourceOf plainBatch false) ⟨⟨0, [0], 0⟩, []⟩) [.next])
      (close (hastyCallback ⟨0, true, false⟩).recorded
        (run (hastyCallback ⟨0, true, false⟩).recorded
          (new (sourceOf plainBatch false) ⟨⟨0, [0], 0⟩, []⟩) [.next])) ∧
    ¬ ReleasesAll (sourceOf plainBatch false).pending
      (new (sourceOf plainBatch false) ⟨⟨0, [0], 0⟩, []⟩)
      (close (hastyCallback ⟨2, true, false⟩).recorded
        (new (sourceOf plainBatch false) ⟨⟨0, [0], 0⟩, []⟩)) ∧
    ¬ ReleasesAll (sourceOf plainBatch false).pending
      (run (hastyCallback ⟨0, true, true⟩).recorded
        (new (sourceOf plainBatch false) ⟨⟨0, [0], 0⟩, []⟩) [.next, .next])
      (close (hastyCallback ⟨0, true, true⟩).recorded
        (run (hastyCallback ⟨0, true, true⟩).recorded
          (new (sourceOf plainBatch false) ⟨⟨0, [0], 0⟩, []⟩) [.next, .next])) ∧
    (next (Script.handler ⟨0, true, true⟩)
      (new (sourceOf hastyBatch false) ⟨0, [0], 0⟩)).2.world.callbacks ≠ 2 := by
  refine ⟨fun hall => ?_, fun hall => ?_, fun hall => ?_, by decide⟩
  · cases congrArg List.length hall.attempted_eq
  · obtain ⟨errors, herror, -⟩ := hall.raised _ rfl _ List.mem_cons_self
    cases herror
  · cases congrArg List.length hall.attempted_eq

end QueryStream

end SeriesClient
