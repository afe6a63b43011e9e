import SeriesClient.Proofs.Stream.Recording

set_option relaxedAutoImplicit false
set_option autoImplicit false

/-!
# What releasing does, step by step

A stream releases its batches at two places: all that it tracks when it is closed, and a batch at
its end. Both are sequences of steps of which any may fail.

## Main definitions

* `SeriesClient.failuresOf` — the failures of a closing that its reader is to be told.
* `SeriesClient.CloseRecord` — the steps of a closing, and what it comes to.
* `SeriesClient.ReleaseRecord` — the steps at the end of a batch, and what they come to.
* `SeriesClient.QueryStream.ClosedBy` — what a closing changes.

## Main results

* `SeriesClient.QueryStream.exists_closedBy` — closing an open stream makes these steps.
* `SeriesClient.QueryStream.exists_releaseRecord` — so does the end of a batch.
* `SeriesClient.CloseRecord.releases` — a batch is released by a closing, or still tracked after it.
* `SeriesClient.CloseRecord.result_eq` — a closing whose callback returns raises all failures.

## Design

The failures to close the source and to release a batch are caught where they happen, and raised
together at the end. The callback is called unguarded at both places: its failure skips the
steps that come after it, and is raised as it is.
-/

namespace SeriesClient

variable {ω β ι : Type}

/-! ## Records and failures -/

/-- What the recorded step came to. -/
def StreamRecord.result : StreamRecord β → Except Fault Unit
  | .closedSource result => result
  | .released _ result => result
  | .calledBack result => result

/-- A record of something that a handler comes to in some state. -/
def StreamRecord.Of (h : Handler ω β ι) : StreamRecord β → Prop
  | .closedSource result => ∃ source w, (h.closeSource source w).1 = result
  | .released b result => ∃ w, (h.releaseBatch b w).1 = result
  | .calledBack result => ∃ w, (h.callback w).1 = result

/-- A callback that always returns has no record of a failure. -/
lemma StreamRecord.not_of_calledBack {h : Handler ω β ι} (hback : ∀ w, (h.callback w).1 = .ok ())
    (fault : Fault) : ¬ (StreamRecord.calledBack (.error fault)).Of h := by
  rintro ⟨w, hfault⟩
  rw [hback w] at hfault
  cases hfault

/-- The failures of several steps. -/
def faultsOf (results : List (Except Fault Unit)) : List Fault :=
  results.filterMap fun
    | .ok () => none
    | .error fault => some fault

/-- The failures of a closing that its reader is to be told: all of them, but for the one of a
first attempt to close the source if the second succeeds. -/
def failuresOf : List (StreamRecord β) → List Fault
  | .closedSource (.error _) :: .closedSource (.ok ()) :: records =>
    faultsOf (records.map StreamRecord.result)
  | records => faultsOf (records.map StreamRecord.result)

/-- What a closing raises for the failures that it has collected. -/
def raised : List Fault → Except Fault Unit
  | [] => .ok ()
  | fault :: faults => .error (.streamClose (fault :: faults))

/-- A failure that a closing has collected is among those that it raises. -/
lemma exists_raised {faults : List Fault} {fault : Fault} (hfault : fault ∈ faults) :
    ∃ errors, raised faults = .error (.streamClose errors) ∧ fault ∈ errors := by
  cases faults with
  | nil => cases hfault
  | cons first rest => exact ⟨_, rfl, hfault⟩

/-- Steps that succeed leave no failures. -/
lemma faultsOf_eq_nil {results : List (Except Fault Unit)}
    (hresults : ∀ result ∈ results, result = .ok ()) : faultsOf results = [] := by
  rw [faultsOf, List.filterMap_eq_nil_iff]
  intro result hresult
  rw [hresults result hresult]

/-- The attempts to close a source, and the failures that count. -/
inductive SourceRecord : List (StreamRecord β) → List Fault → Prop where
  /-- The source closes. -/
  | closed : SourceRecord [.closedSource (.ok ())] []
  /-- It closes at the second attempt. -/
  | retried (first : Fault) :
    SourceRecord [.closedSource (.error first), .closedSource (.ok ())] []
  /-- It does not close. -/
  | failed (first second : Fault) :
    SourceRecord [.closedSource (.error first), .closedSource (.error second)] [first, second]

/-- The attempts to release batches. -/
def releaseRecords (bs : List β) (results : List (Except Fault Unit)) : List (StreamRecord β) :=
  List.zipWith .released bs results

/-- The steps of closing a stream that tracks the given batches, with what it tracks afterwards
and what the closing comes to. -/
inductive CloseRecord (acquired : List (Nat × β)) :
    List (StreamRecord β) → List (Nat × β) → Except Fault Unit → Prop where
  /-- The callback returns. The release of each batch is attempted in the order of their arrival,
  and all failures are raised together. -/
  | completed {attempts : List (StreamRecord β)} {faults : List Fault}
    {results : List (Except Fault Unit)} (hsource : SourceRecord attempts faults)
    (hresults : results.length = acquired.length) :
    CloseRecord acquired
      (attempts ++ .calledBack (.ok ()) :: releaseRecords (acquired.map Prod.snd) results) []
      (raised (faults ++ faultsOf results))
  /-- The callback fails. No batch is released, and only this failure is raised. -/
  | interrupted {attempts : List (StreamRecord β)} {faults : List Fault} {fault : Fault}
    (hsource : SourceRecord attempts faults) :
    CloseRecord acquired (attempts ++ [.calledBack (.error fault)]) acquired (.error fault)

/-- The steps at the end of a batch that is tracked, and what they come to. -/
inductive ReleaseRecord (b : β) : List (StreamRecord β) → Except Fault Unit → Prop where
  /-- The callback returns, and the release is attempted. -/
  | completed (result : Except Fault Unit) :
    ReleaseRecord b [.calledBack (.ok ()), .released b result] result
  /-- The callback fails, and the release is not attempted. -/
  | interrupted (fault : Fault) : ReleaseRecord b [.calledBack (.error fault)] (.error fault)

/-- The batches that are released are those for which there is a result. -/
lemma releasesOf_releaseRecords {bs : List β} {results : List (Except Fault Unit)}
    (hlength : results.length = bs.length) : releasesOf (releaseRecords bs results) = bs := by
  induction bs generalizing results with
  | nil => rfl
  | cons b bs ih =>
    obtain ⟨result, rest, rfl⟩ := List.exists_cons_of_length_eq_add_one hlength
    have hrest := ih (Nat.succ.inj hlength)
    simpa [releaseRecords, releasesOf] using hrest

/-- The results of the attempts are those given. -/
lemma map_result_releaseRecords {bs : List β} {results : List (Except Fault Unit)}
    (hlength : results.length = bs.length) :
    (releaseRecords bs results).map StreamRecord.result = results := by
  induction bs generalizing results with
  | nil =>
    obtain rfl := List.eq_nil_of_length_eq_zero hlength
    rfl
  | cons b bs ih =>
    obtain ⟨result, rest, rfl⟩ := List.exists_cons_of_length_eq_add_one hlength
    have hrest := ih (Nat.succ.inj hlength)
    simpa [releaseRecords, StreamRecord.result] using hrest

/-- Closing the source releases no batch. -/
lemma SourceRecord.releases {attempts : List (StreamRecord β)} {faults : List Fault}
    (hsource : SourceRecord attempts faults) : releasesOf attempts = [] := by
  cases hsource <;> rfl

/-- Of the attempts to close the source, those that count are collected, whatever comes after
them. -/
lemma SourceRecord.failuresOf_append {attempts : List (StreamRecord β)} {faults : List Fault}
    (hsource : SourceRecord attempts faults) (result : Except Fault Unit)
    (records : List (StreamRecord β)) :
    failuresOf (attempts ++ .calledBack result :: records) =
      faults ++ faultsOf (result :: records.map StreamRecord.result) := by
  cases hsource <;> rfl

namespace CloseRecord

variable {acquired acquired' : List (Nat × β)} {records : List (StreamRecord β)}
  {result : Except Fault Unit}

/-- **A closing attempts each release once, in order**, or leaves the batch tracked. -/
theorem releases (hrecord : CloseRecord acquired records acquired' result) :
    releasesOf records ++ acquired'.map Prod.snd = acquired.map Prod.snd := by
  cases hrecord with
  | completed hsource hresults =>
    rw [releasesOf_append, hsource.releases, List.map_nil, List.append_nil]
    exact releasesOf_releaseRecords (by rw [hresults, List.length_map])
  | interrupted hsource =>
    rw [releasesOf_append, hsource.releases]
    rfl

/-- After a closing, nothing is tracked; or else the callback has failed, and what is tracked is
what was tracked before. -/
lemma acquired_eq (hrecord : CloseRecord acquired records acquired' result) :
    acquired' = [] ∨ acquired' = acquired ∧ releasesOf records = [] ∧
      ∃ fault, .calledBack (.error fault) ∈ records ∧ result = .error fault := by
  cases hrecord with
  | completed _ _ => exact .inl rfl
  | interrupted hsource =>
    refine .inr ⟨rfl, ?_, _, List.mem_append_right _ (List.mem_singleton_self _), rfl⟩
    rw [releasesOf_append, hsource.releases]
    rfl

/-- **A closing whose callback returns raises all failures together**, and tracks nothing
afterwards. -/
theorem result_eq (hrecord : CloseRecord acquired records acquired' result)
    (hback : ∀ fault, .calledBack (.error fault) ∉ records) :
    acquired' = [] ∧ result = raised (failuresOf records) := by
  cases hrecord with
  | completed hsource hresults =>
    refine ⟨rfl, ?_⟩
    rw [hsource.failuresOf_append, map_result_releaseRecords (by rw [hresults, List.length_map])]
    rfl
  | interrupted hsource =>
    exact absurd (List.mem_append_right _ (List.mem_singleton_self _)) (hback _)

/-- A closing all of whose steps succeed raises nothing. -/
lemma result_ok (hrecord : CloseRecord acquired records acquired' result)
    (hall : ∀ record ∈ records, record.result = .ok ()) : result = .ok () := by
  have hback : ∀ fault, .calledBack (.error fault) ∉ records := by
    intro fault hfault
    cases hall _ hfault
  have hfaults : faultsOf (records.map StreamRecord.result) = [] :=
    faultsOf_eq_nil (by simpa using hall)
  have hnone : failuresOf records = [] := by
    unfold failuresOf
    split
    · exact absurd (hall _ List.mem_cons_self) (by simp [StreamRecord.result])
    · exact hfaults
  rw [(hrecord.result_eq hback).2, hnone]
  rfl

end CloseRecord

namespace QueryStream

variable (h : Handler ω β ι)

/-! ## Steps of a stream -/

/-- Closing the source makes one attempt or two. -/
lemma exists_sourceRecord (s : QueryStream (Recorded ω (StreamRecord β)) β) :
    ∃ attempts faults source notices world, closeSource h.recorded s =
        (faults, { s with source, notices, world := ⟨world, s.world.records ++ attempts⟩ }) ∧
      SourceRecord attempts faults ∧ ∀ record ∈ attempts, record.Of h := by
  unfold closeSource
  rcases hfirst : h.closeSource s.source s.world.world with ⟨first | _, source, world⟩
  · have hof : (StreamRecord.closedSource (.error first) : StreamRecord β).Of h :=
      ⟨_, _, congrArg Prod.fst hfirst⟩
    rw [h.recorded_closeSource hfirst]
    simp only
    rcases hsecond : h.closeSource source world with ⟨second | _, source', world'⟩ <;>
      rw [h.recorded_closeSource hsecond] <;>
      simp only [List.append_assoc, List.cons_append, List.nil_append]
    · exact ⟨_, _, _, _, _, rfl, .failed first second,
        by simpa using ⟨hof, ⟨_, _, congrArg Prod.fst hsecond⟩⟩⟩
    · exact ⟨_, _, _, _, _, rfl, .retried first,
        by simpa using ⟨hof, ⟨_, _, congrArg Prod.fst hsecond⟩⟩⟩
  · rw [h.recorded_closeSource hfirst]
    exact ⟨_, _, _, _, _, rfl, .closed, by simpa using ⟨_, _, congrArg Prod.fst hfirst⟩⟩

/-- The release of each of several batches is attempted, in order, whatever fails. -/
lemma exists_releaseRecords (bs : List (Nat × β)) (w : Recorded ω (StreamRecord β)) :
    ∃ results world, releaseAll h.recorded bs w = (faultsOf results,
        ⟨world, w.records ++ releaseRecords (bs.map Prod.snd) results⟩) ∧
      results.length = bs.length ∧
      ∀ record ∈ releaseRecords (bs.map Prod.snd) results, record.Of h := by
  induction bs generalizing w with
  | nil =>
    exact ⟨[], w.world, by simp [releaseAll, releaseRecords, faultsOf], rfl,
      by simp [releaseRecords]⟩
  | cons e rest ih =>
    rcases hrelease : h.releaseBatch e.2 w.world with ⟨result, world⟩
    obtain ⟨results, world', hrest, hlength, hof⟩ :=
      ih ⟨world, w.records ++ [.released e.2 result]⟩
    refine ⟨result :: results, world', ?_, by simp [hlength], ?_⟩
    · simp only [releaseAll, h.recorded_releaseBatch hrelease]
      cases result <;> simp [hrest, faultsOf, releaseRecords]
    · intro record hrecord
      rcases List.mem_cons.1 hrecord with rfl | hrecord
      · exact ⟨_, congrArg Prod.fst hrelease⟩
      · exact hof record hrecord

variable {h} {s : QueryStream (Recorded ω (StreamRecord β)) β}

/-- What a closing changes, with the steps that it makes and what it comes to. -/
structure ClosedBy (h : Handler ω β ι) (records : List (StreamRecord β))
    (result : Except Fault Unit) (s t : QueryStream (Recorded ω (StreamRecord β)) β) : Prop where
  /-- The steps. -/
  record : CloseRecord s.acquired records t.acquired result
  /-- They are recorded. -/
  records_eq : t.world.records = s.world.records ++ records
  /-- They are steps of the handler. -/
  of_handler : ∀ record ∈ records, record.Of h
  /-- The stream is closed. -/
  closed_eq : t.closed = true
  /-- No batch arrives. -/
  arrived_eq : t.arrived = s.arrived
  /-- The iteration stays where it is. -/
  position_eq : t.position = s.position

/-- **Closing an open stream**, whatever fails. -/
theorem exists_closedBy (h : Handler ω β ι) (hopen : s.closed = false) :
    ∃ records result t, closeWithin h.recorded s = (result, t) ∧ ClosedBy h records result s t := by
  obtain ⟨attempts, faults, source, notices, world, hclose, hsource, hattempts⟩ :=
    exists_sourceRecord h { s with closed := true }
  simp only [closeWithin, hopen, Bool.false_eq_true, if_false, hclose]
  rcases hback : h.callback world with ⟨fault | _, world'⟩
  · have hof : (StreamRecord.calledBack (.error fault) : StreamRecord β).Of h :=
      ⟨_, congrArg Prod.fst hback⟩
    rw [h.recorded_callback hback]
    refine ⟨_, _, _, rfl, .interrupted hsource, by simp, ?_, rfl, rfl, rfl⟩
    simpa [or_imp, forall_and] using ⟨hattempts, hof⟩
  · have hof : (StreamRecord.calledBack (.ok ()) : StreamRecord β).Of h :=
      ⟨_, congrArg Prod.fst hback⟩
    rw [h.recorded_callback hback]
    obtain ⟨results, world'', hall, hlength, hreleases⟩ := exists_releaseRecords h s.acquired
      ⟨world', s.world.records ++ attempts ++ [.calledBack (.ok ())]⟩
    have hrecords : ∀ record ∈ attempts ++
        .calledBack (.ok ()) :: releaseRecords (s.acquired.map Prod.snd) results, record.Of h := by
      intro record hrecord
      rcases List.mem_append.1 hrecord with hrecord | hrecord
      · exact hattempts record hrecord
      · rcases List.mem_cons.1 hrecord with rfl | hrecord
        · exact hof
        · exact hreleases record hrecord
    have hraised := CloseRecord.completed hsource hlength
    simp only [hall]
    cases hfaults : faults ++ faultsOf results <;> rw [hfaults] at hraised <;>
      exact ⟨_, _, _, rfl, hraised, by simp, hrecords, rfl, rfl, rfl⟩

/-- **The end of the only batch that is tracked**, whatever fails. -/
theorem exists_releaseRecord (h : Handler ω β ι) {number : Nat} {b : β}
    (hacquired : s.acquired = [(number, b)]) :
    ∃ records result world, release h.recorded number b s =
        (result, { s with acquired := [], world := ⟨world, s.world.records ++ records⟩ }) ∧
      ReleaseRecord b records result ∧ ∀ record ∈ records, record.Of h := by
  have huntrack : untrack? number s.acquired = some [] := by
    simp [untrack?, hacquired]
  rcases hback : h.callback s.world.world with ⟨fault | _, world⟩
  · simp only [release, huntrack, h.recorded_callback hback]
    exact ⟨_, _, _, rfl, .interrupted fault, by simpa using ⟨_, congrArg Prod.fst hback⟩⟩
  · rcases hrelease : h.releaseBatch b world with ⟨result, world'⟩
    have hrecorded := h.recorded_releaseBatch (b := b)
      (w := ⟨world, s.world.records ++ [.calledBack (.ok ())]⟩) hrelease
    simp only [release, huntrack, h.recorded_callback hback, hrecorded, List.append_assoc,
      List.cons_append, List.nil_append]
    refine ⟨_, _, _, rfl, .completed result, ?_⟩
    simpa using ⟨⟨_, congrArg Prod.fst hback⟩, ⟨_, congrArg Prod.fst hrelease⟩⟩

end QueryStream

end SeriesClient
