import SeriesClient.Proofs.Stream.Aggregation

set_option relaxedAutoImplicit false
set_option autoImplicit false

/-!
# What a closing reports

A closing whose callback returns makes all of its steps, whatever fails, and raises what has failed
in the order in which it happened.

## Main definitions

* `SeriesClient.CloseSteps` — the steps of such a closing, and the failures among them.
* `SeriesClient.QueryStream.Reports` — what such a closing does and raises.
* `SeriesClient.QueryStream.InArrivalOrder` — batches are tracked in the order of their arrival.

## Main results

* `SeriesClient.QueryStream.reports_close` — a closing whose callback returns reports exactly
  what failed.
-/

namespace SeriesClient

variable {ω β ι : Type}

/-- The steps of a closing whose callback returns on a stream that tracks the given batches, with
the failures that count: those of the source if it has not closed in the end, and then those of
the releases. -/
inductive CloseSteps (bs : List β) : List (StreamRecord β) → List Fault → Prop where
  | mk {attempts : List (StreamRecord β)} {faults : List Fault}
    {results : List (Except Fault Unit)} (hsource : SourceRecord attempts faults)
    (hresults : results.length = bs.length) :
    CloseSteps bs (attempts ++ .calledBack (.ok ()) :: releaseRecords bs results)
      (faults ++ faultsOf results)

/-- What a closing raises was raised from the first of the failures. -/
lemma cause?_of_raised {faults : List Fault} {fault : Fault} (h : raised faults = .error fault) :
    fault = .streamClose faults ∧ fault.cause? = faults.head?.map .fault := by
  cases faults with
  | nil => cases h
  | cons first rest =>
    cases h
    exact ⟨rfl, rfl⟩

namespace QueryStream

/-- What a closing does and raises if its callback returns. -/
structure Reports (h : Handler ω β ι) (s : QueryStream (Recorded ω (StreamRecord β)) β)
    (ended : Except Fault Unit × QueryStream (Recorded ω (StreamRecord β)) β) : Prop where
  /-- It makes its steps in order, and raises the failures that count, if there are any, in the same
  order. -/
  steps : ∃ records faults, CloseSteps (s.acquired.map Prod.snd) records faults ∧
    ended.2.world.records = s.world.records ++ records ∧
    (∀ record ∈ records, record.Of h) ∧ ended.1 = raised faults ∧
    ∀ fault, ended.1 = .error fault →
      fault = .streamClose faults ∧ fault.cause? = faults.head?.map .fault
  /-- Nothing is tracked any more. -/
  acquired_eq : ended.2.acquired = []
  /-- The stream is closed. -/
  closed_eq : ended.2.closed = true

/-- The tracked batches are some of those that have arrived, in the order of their arrival. -/
structure InArrivalOrder (ds : List (Delivery β)) (s : QueryStream ω β) : Prop where
  /-- Their numbers increase. -/
  ascending : (s.acquired.map Prod.fst).Pairwise (· < ·)
  /-- Each of them is the batch that arrived under its number. -/
  arrived : ∀ e ∈ s.acquired, ds[e.1]?.map Delivery.batch = some e.2

variable {h : Handler ω β ι} {ds : List (Delivery β)}
  {s : QueryStream (Recorded ω (StreamRecord β)) β}

/-- Closing an open stream whose callback returns. -/
lemma reports_of_open (hback : ∀ w, (h.callback w).1 = .ok ()) (hopen : s.closed = false) :
    Reports h s (close h.recorded s) := by
  obtain ⟨records, result, t, hclose, hclosed⟩ := exists_closedBy (s := s.finish) h hopen
  rw [close_of_open h.recorded hopen, hclose]
  have hreturns : ∀ fault, .calledBack (.error fault) ∉ records := fun fault hfault =>
    StreamRecord.not_of_calledBack hback fault (hclosed.of_handler _ hfault)
  obtain ⟨hnone, -⟩ := hclosed.record.result_eq hreturns
  refine ⟨?_, hnone, hclosed.closed_eq⟩
  have hrecord := hclosed.record
  generalize t.acquired = kept at hrecord
  cases hrecord with
  | completed hsource hresults =>
    refine ⟨_, _, .mk hsource ?_, hclosed.records_eq, hclosed.of_handler, rfl, ?_⟩
    · rw [List.length_map]
      exact hresults
    · intro fault hfault
      exact cause?_of_raised hfault
  | interrupted hsource =>
    exact absurd (List.mem_append_right _ (List.mem_singleton_self _)) (hreturns _)

/-- A stream that has not lost a batch tracks its batches in the order of their arrival. -/
lemma Tracked.inArrivalOrder (hs : s.Tracked ds) : s.InArrivalOrder ds where
  ascending := by
    rw [hs.numbers]
    exact List.pairwise_lt_range'
  arrived e he := by
    obtain ⟨i, hi, rfl⟩ := List.mem_iff_getElem.1 he
    have hnumber : s.acquired[i].1 = s.attempted.length + i := by
      have hmap : (s.acquired.map Prod.fst)[i]? = some s.acquired[i].1 := by simp [hi]
      rw [hs.numbers, List.getElem?_range' hi] at hmap
      simpa using hmap.symm
    have hbatch : (s.delivered ds)[s.attempted.length + i]? = some s.acquired[i].2 := by
      rw [← hs.batches, List.getElem?_append_right (Nat.le_add_right _ _), Nat.add_sub_cancel_left]
      simp [hi]
    rw [hnumber]
    simp only [delivered, List.getElem?_map, List.getElem?_take] at hbatch
    split at hbatch
    · exact hbatch
    · cases hbatch

/-- **A closing reports exactly what failed.** Let the callback return. Then closing an open stream
tries to close the source, a second time if the first attempt fails; attempts the release of
each tracked batch once and in order; and raises the two failures of the source, if the second
attempt failed as well, followed by those of the releases, from the first of all of these. If
there are none, it returns. After any calls, the order in which the batches are tracked is the order
of their arrival.

**Proof sketch.** `exists_closedBy` tells the steps of the closing; the callback is no reason to
interrupt them. What is tracked between calls is what `Rests.run` leaves. -/
theorem reports_close (h : Handler ω β ι) (hback : ∀ w, (h.callback w).1 = .ok ()) :
    (∀ s : QueryStream (Recorded ω (StreamRecord β)) β, s.closed = false →
      Reports h s (close h.recorded s)) ∧
    ∀ (source : Source β) (world : ω) (calls : List Call),
      (run h.recorded (new source ⟨world, []⟩) calls).closed = false →
      (run h.recorded (new source ⟨world, []⟩) calls).InArrivalOrder source.pending := by
  refine ⟨fun s hopen => reports_of_open hback hopen, fun source world calls hopen => ?_⟩
  have hrests := (Rests.standing (.opened (open_new h.decoding source world))).run calls
  rcases hrests.open_or_lost hopen with hs | ⟨b, hs⟩
  · exact hs.tracked.inArrivalOrder
  · refine ⟨?_, ?_⟩
    · rw [hs.acquired_eq]
      exact List.Pairwise.nil
    · rw [hs.acquired_eq]
      nofun

/-- A source that closes at the third attempt at the earliest, and a batch that cannot be released:
three failures are raised, from the first of them. -/
theorem reports_close_stubbornSource :
    let h := Script.handler ⟨2, true, false⟩
    let s := run h.recorded (new stubbornSource ⟨⟨0, [0, 0], 0⟩, []⟩) [.next, .next]
    (∀ w, (h.callback w).1 = .ok ()) ∧ s.closed = false ∧
      s.acquired.map Prod.fst = [0, 1] ∧ s.InArrivalOrder stubbornSource.pending ∧
      Reports h s (close h.recorded s) ∧
      (close h.recorded s).1 = .error (.streamClose [.runtime "close failed #1",
        .runtime "close failed #2", .runtime "release failed"]) := by
  have hall := reports_close (Script.handler ⟨2, true, false⟩) fun _ => rfl
  exact ⟨fun _ => rfl, rfl, rfl, hall.2 _ _ _ rfl, hall.1 _ rfl, rfl⟩

end QueryStream

end SeriesClient
