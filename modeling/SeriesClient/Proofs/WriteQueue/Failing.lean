import SeriesClient.Proofs.WriteQueue.Accounting

set_option relaxedAutoImplicit false
set_option autoImplicit false

/-!
# What a writer loses when it fails

A callback can fail, and so can the computation of a delay. The writer then lets go of everything
it holds and never takes anything up again, although points are still accepted.

## Main definitions

* `SeriesClient.handledOf` — the points that were written or dropped.
* `SeriesClient.WriterPhase.held` — the points that the writer holds.
* `SeriesClient.Balance` — where all points are, those that are lost included.
* `SeriesClient.SharedQueue.Runs` — the runs of any outlet, whatever fails.
* `SeriesClient.SharedQueue.Fates` — what becomes of points if anything may fail.

## Main results

* `SeriesClient.WriteQueue.exists_passes` — where a step of the writer leaves what it held.
* `SeriesClient.Balance.settled` — nothing is lost as long as the writer has not failed.
* `SeriesClient.SharedQueue.Runs.fates` — what becomes of points after any run.

## Design

This account is kept for points alone. The callbacks need not have been called for each
point that was written, and there need not be as many cookies as points.

Chunks of a size below zero hold no points, so a queue with such a setting loses what it takes
without any failure.
-/

namespace SeriesClient

variable {ω δ α κ : Type}

/-! ## Points -/

/-- The points that an outlet is rid of by what it was told. -/
def OutletRecord.handled? : OutletRecord δ α κ → Option (δ × List α)
  | written database points => some (database, points)
  | confirmed _ _ => none
  | dropped database points _ => some (database, points)

/-- The points that were written or dropped, with their databases, in order. -/
def handledOf (records : List (OutletRecord δ α κ)) : List (δ × List α) :=
  records.filterMap OutletRecord.handled?

/-- The points of a chunk with their database. -/
def Chunk.entry (c : Chunk δ α κ) : δ × List α := (c.database, c.points)

/-- The points of a lot with their database. -/
def Lot.entry (e : δ × Lot α κ) : δ × List α := (e.1, e.2.points)

/-- The points that the writer holds, and that it has neither written nor dropped. -/
def WriterPhase.held : WriterPhase δ α κ → List (δ × List α)
  | idle => []
  | attempting _ chunk rest => (chunk :: rest).map Chunk.entry
  | pausing _ chunk _ rest => (chunk :: rest).map Chunk.entry
  | confirming _ rest => rest.map Chunk.entry
  | failed => []
  | finished => []

/-- The writer holds all of the chunks before the first of them. -/
@[simp]
lemma WriterPhase.held_ofChunks (chunks : List (Chunk δ α κ)) :
    (ofChunks chunks).held = chunks.map Chunk.entry := by
  cases chunks <;> rfl

/-- A writer that has failed holds nothing. -/
@[simp]
lemma WriterPhase.held_failed : (failed : WriterPhase δ α κ).held = [] := rfl

/-- The writer does not end before some chunks. -/
lemma WriterPhase.ofChunks_ne_finished (chunks : List (Chunk δ α κ)) :
    ofChunks chunks ≠ .finished := by
  cases chunks <;> nofun

/-- The writer does not fail before some chunks. -/
lemma WriterPhase.ofChunks_ne_failed (chunks : List (Chunk δ α κ)) :
    ofChunks chunks ≠ .failed := by
  cases chunks <;> nofun

section Records

variable (records : List (OutletRecord δ α κ)) (database : δ) (points : List α)

/-- Points that were written are handled. -/
@[simp]
lemma handledOf_written :
    handledOf (records ++ [.written database points]) =
      handledOf records ++ [(database, points)] := by
  simp [handledOf, OutletRecord.handled?]

/-- Points that were dropped are handled. -/
@[simp]
lemma handledOf_dropped (fault : Fault) :
    handledOf (records ++ [.dropped database points fault]) =
      handledOf records ++ [(database, points)] := by
  simp [handledOf, OutletRecord.handled?]

/-- Confirming a point handles nothing more. -/
@[simp]
lemma handledOf_confirmed (p : α) (cookie : κ) :
    handledOf (records ++ [.confirmed p cookie]) = handledOf records := by
  simp [handledOf, OutletRecord.handled?]

end Records

section Databases

variable [BEq δ] (k : δ)

/-- The points of a database. -/
def pointsFor (entries : List (δ × List α)) : List α :=
  (entries.filter (·.1 == k)).flatMap Prod.snd

/-- The points that wait for a database. -/
def WriteQueue.waitingFor (q : WriteQueue δ α κ) : List α :=
  ((q.queued.find? k).map Lot.points).getD []

/-- The points of two lists are those of each. -/
lemma pointsFor_append (xs ys : List (δ × List α)) :
    pointsFor k (xs ++ ys) = pointsFor k xs ++ pointsFor k ys := by
  simp [pointsFor]

/-- The points of a database are gathered from each entry. -/
lemma pointsFor_eq_flatMap (entries : List (δ × List α)) :
    pointsFor k entries = entries.flatMap fun e => if e.1 == k then e.2 else [] := by
  induction entries with
  | nil => rfl
  | cons e rest ih =>
    rw [List.flatMap_cons, ← ih]
    by_cases h : (e.1 == k) = true <;> simp [pointsFor, h]

end Databases

/-- A chunk of a lot is for the database of the lot. -/
lemma Lot.database_of_mem_cut {database : δ} {size bound : Nat} {points : List α}
    {cookies : List κ} {c : Chunk δ α κ} (hc : c ∈ cut database size bound points cookies) :
    c.database = database := by
  induction bound generalizing points cookies with
  | zero => cases hc
  | succ bound ih =>
    cases points with
    | nil => cases hc
    | cons p points =>
      rcases List.mem_cons.1 hc with rfl | hc
      · rfl
      · exact ih hc

/-- The chunks of a lot hold its points. -/
lemma Lot.pointsFor_chunks [BEq δ] (l : Lot α κ) (database k : δ) {size : Nat}
    (pos : 0 < size) : pointsFor k ((l.chunks database size).map Chunk.entry) =
      if database == k then l.points else [] := by
  have hdatabase : ∀ c ∈ l.chunks database size, c.database = database :=
    fun c hc => database_of_mem_cut hc
  have hpoints := Lot.points_chunks l database pos
  rw [pointsFor_eq_flatMap, List.flatMap_map]
  have hsame : (l.chunks database size).flatMap
      (fun c => if (Chunk.entry c).1 == k then (Chunk.entry c).2 else []) =
      (l.chunks database size).flatMap fun c => if database == k then c.points else [] := by
    refine List.flatMap_congr fun c hc => ?_
    rw [Chunk.entry, hdatabase c hc]
  rw [hsame]
  split
  · exact hpoints
  · simp

/-! ## Steps of the writer -/

/-- Where a step leaves what the writer held: it hands over at most one chunk, loses chunks only by
failing, and goes on holding the rest. -/
structure Passes (q q' : WriteQueue δ α κ) (records records' : List (OutletRecord δ α κ))
    (handed lost : List (δ × List α)) : Prop where
  /-- What is handed over is written or dropped. -/
  handled_eq : handledOf records' = handledOf records ++ handed
  /-- At most one chunk is handed over. -/
  handed_le : handed.length ≤ 1
  /-- Everything that was held is handed over, lost, or still held. -/
  held_eq : q.phase.held = handed ++ lost ++ q'.phase.held
  /-- Only a writer that fails loses anything. -/
  lost_eq : q'.phase ≠ .failed → lost = []
  /-- The rest of the queue is the same. -/
  same : q'.queued = q.queued ∧ q'.settings = q.settings ∧ q'.running = q.running
  /-- The writer does not end in the middle of its work. -/
  ended : q'.phase = .finished → q.phase = .finished

namespace WriteQueue

variable {o : Outlet ω δ α κ}

/-- A chunk that is dropped is handed over, whether or not the callback fails; if it does, the
rest is lost. -/
lemma exists_passes_discard (q : WriteQueue δ α κ) (c : Chunk δ α κ) (fault : Fault)
    (rest : List (Chunk δ α κ)) (w : Recorded ω (OutletRecord δ α κ))
    (hheld : q.phase.held = c.entry :: rest.map Chunk.entry) :
    ∃ handed lost, Passes q (q.discard o.recorded c fault rest w).1 w.records
      (q.discard o.recorded c fault rest w).2.records handed lost := by
  rcases hdrop : o.drop c.database c.points fault w.world with ⟨_ | _, world⟩ <;>
    simp only [discard, Outlet.recorded, hdrop]
  · exact ⟨[c.entry], rest.map Chunk.entry, by simp [Chunk.entry], Nat.le_refl _,
      by simp [hheld], fun h => absurd rfl h, ⟨rfl, rfl, rfl⟩, by simp⟩
  · exact ⟨[c.entry], [], by simp [Chunk.entry], Nat.le_refl _, by simp [hheld], fun _ => rfl,
      ⟨rfl, rfl, rfl⟩, fun h => absurd h (WriterPhase.ofChunks_ne_finished rest)⟩

/-- **Where a step leaves what the writer held**, if it holds anything.

**Proof sketch.** By the phase of the writer. A chunk is handed over by the write that succeeds or
by the drop; what fails after that loses the rest, and a delay that cannot be computed loses
the chunk as well. -/
theorem exists_passes (q : WriteQueue δ α κ) (w : Recorded ω (OutletRecord δ α κ))
    (hphase : q.phase ≠ .idle) :
    ∃ handed lost, Passes q (q.step o.recorded w).1 w.records (q.step o.recorded w).2.records
      handed lost := by
  have hstay : Passes q q w.records w.records [] [] :=
    ⟨by simp, Nat.zero_le 1, rfl, fun _ => rfl, ⟨rfl, rfl, rfl⟩, id⟩
  cases hq : q.phase with
  | idle => exact absurd hq hphase
  | attempting retries c rest =>
    have hheld : q.phase.held = c.entry :: rest.map Chunk.entry := by rw [hq]; rfl
    simp only [step, hq, attempt, Outlet.recorded]
    rcases hwrite : o.write c.database c.points w.world with ⟨fault | _, world⟩
    · simp only
      rcases hjudge : q.judge retries fault with _ | _ | delay
      · -- The delay cannot be computed.
        exact ⟨[], c.entry :: rest.map Chunk.entry, by simp, Nat.zero_le 1,
          by simp [hheld], fun h => absurd rfl h, ⟨rfl, rfl, rfl⟩, by simp⟩
      · exact exists_passes_discard q c fault rest ⟨world, w.records⟩ hheld
      · exact ⟨[], [], by simp, Nat.zero_le 1, hheld, fun _ => rfl, ⟨rfl, rfl, rfl⟩, by simp⟩
    · exact ⟨[c.entry], [], by simp [Chunk.entry], Nat.le_refl _, hheld, fun _ => rfl,
        ⟨rfl, rfl, rfl⟩, by simp⟩
  | pausing retries c fault rest =>
    have hheld : q.phase.held = c.entry :: rest.map Chunk.entry := by rw [hq]; rfl
    simp only [step, hq]
    split
    · exact exists_passes_discard q c fault rest w hheld
    · exact ⟨[], [], by simp, Nat.zero_le 1, hheld, fun _ => rfl, ⟨rfl, rfl, rfl⟩, by simp⟩
  | confirming left rest =>
    have hheld : q.phase.held = rest.map Chunk.entry := by rw [hq]; rfl
    cases left with
    | nil =>
      simp only [step, hq]
      exact ⟨[], [], by simp, Nat.zero_le 1, by simp [hheld], fun _ => rfl, ⟨rfl, rfl, rfl⟩,
        fun h => absurd h (WriterPhase.ofChunks_ne_finished rest)⟩
    | cons i left =>
      rcases hconfirm : o.confirm i.1 i.2 w.world with ⟨_ | _, world⟩ <;>
        simp only [step, hq, Outlet.recorded, hconfirm]
      · exact ⟨[], rest.map Chunk.entry, by simp, Nat.zero_le 1, by simp [hheld],
          fun h => absurd rfl h, ⟨rfl, rfl, rfl⟩, by simp⟩
      · exact ⟨[], [], by simp, Nat.zero_le 1, hheld, fun _ => rfl, ⟨rfl, rfl, rfl⟩, by simp⟩
  | failed =>
    simp only [step, hq]
    exact ⟨_, _, hstay⟩
  | finished =>
    simp only [step, hq]
    exact ⟨_, _, hstay⟩

/-- A writer that has failed does nothing. -/
lemma step_of_failed {q : WriteQueue δ α κ} (hq : q.phase = .failed) (w : ω) :
    q.step o w = (q, w) := by
  simp only [step, hq]

section Waiting

variable [BEq δ]

/-- Points that are added wait behind those that were there before. -/
lemma waitingFor_store [PartialEquivBEq δ] (q : WriteQueue δ α κ) (database k : δ)
    (points : List α) (cookies : List κ) : (q.store database points cookies).waitingFor k =
      q.waitingFor k ++ if database == k then points else [] := by
  simp only [waitingFor, store, OrderedMap.find?_insert]
  by_cases hk : (database == k) = true
  · rw [if_pos hk, if_pos hk, OrderedMap.find?_congr q.queued hk]
    cases q.queued.find? k <;> rfl
  · rw [if_neg hk, if_neg hk, List.append_nil]

/-- What waits for a database is what is in its lot. -/
lemma pointsFor_entries [PartialEquivBEq δ] {q : WriteQueue δ α κ}
    (h : q.queued.DistinctKeys) (k : δ) :
    pointsFor k (q.queued.entries.map Lot.entry) = q.waitingFor k := by
  rw [waitingFor, ← OrderedMap.flatMap_entries h Lot.points k, pointsFor_eq_flatMap,
    List.flatMap_map]
  rfl

/-- The chunks of all lots hold what waits. -/
lemma pointsFor_held_take [PartialEquivBEq δ] {q : WriteQueue δ α κ}
    (h : q.queued.DistinctKeys) {size : Nat}
    (hsize : ChunkSize.ofValue q.settings.batchSize = .atMost size) (k : δ) :
    pointsFor k q.take.phase.held = q.waitingFor k := by
  have pos := ChunkSize.pos_of_ofValue hsize
  rw [← pointsFor_entries h]
  simp only [take, hsize, chunksOf?, WriterPhase.held_ofChunks]
  generalize q.queued.entries = entries
  induction entries with
  | nil => rfl
  | cons e rest ih =>
    have hhead : pointsFor k [Lot.entry e] = if e.1 == k then e.2.points else [] := by
      rw [pointsFor_eq_flatMap, List.flatMap_singleton]
      rfl
    rw [List.flatMap_cons, List.map_append, pointsFor_append, ih, Lot.pointsFor_chunks _ _ _ pos,
      ← hhead, ← pointsFor_append]
    rfl

/-- An empty queue has nothing for any database. -/
lemma waitingFor_take (q : WriteQueue δ α κ) (k : δ) : q.take.waitingFor k = [] := rfl

end Waiting

end WriteQueue

/-! ## The balance -/

/-- Where all points are: handled, lost, held by the writer, or waiting. -/
structure Balance [BEq δ] (accepted : List (δ × List α)) (q : WriteQueue δ α κ)
    (records : List (OutletRecord δ α κ)) (lost : List (δ × List α)) : Prop where
  /-- Each database has one lot. -/
  distinct : q.queued.DistinctKeys
  /-- What was accepted for a database is handled, lost, held or waiting, in this order. -/
  balance : ∀ k, pointsFor k accepted = pointsFor k (handledOf records) ++ pointsFor k lost ++
    pointsFor k q.phase.held ++ q.waitingFor k
  /-- Something is lost only if the writer has failed or there is no size of chunks. Nothing is held
  any more then. -/
  lost_eq : lost = [] ∨ q.phase.held = [] ∧
    (q.phase = .failed ∨ ChunkSize.ofValue q.settings.batchSize = .noChunks)
  /-- The writer ends only when the queue has been closed and emptied. -/
  ended : q.phase = .finished → q.queued.isEmpty = true ∧ q.running = false

namespace Balance

variable [BEq δ] {accepted lost : List (δ × List α)} {q q' : WriteQueue δ α κ}
  {records : List (OutletRecord δ α κ)}

/-- **Nothing is lost as long as the writer has not failed**: if it holds nothing, every point that
was accepted is handled or waits. -/
theorem settled (h : Balance accepted q records lost) {size : Nat}
    (hsize : ChunkSize.ofValue q.settings.batchSize = .atMost size) (hphase : q.phase ≠ .failed)
    (hheld : q.phase.held = []) (k : δ) :
    pointsFor k accepted = pointsFor k (handledOf records) ++ q.waitingFor k := by
  rcases h.lost_eq with hlost | ⟨-, hfailed | hnone⟩
  · rw [h.balance k, hlost, hheld]
    simp [pointsFor]
  · exact absurd hfailed hphase
  · rw [hsize] at hnone
    cases hnone

/-- What a writer hands over is handled, and what it loses is lost. -/
lemma pass (h : Balance accepted q records lost) {records' : List (OutletRecord δ α κ)}
    {handed lost' : List (δ × List α)} (hpass : Passes q q' records records' handed lost')
    (hphase : q.phase ≠ .failed) : Balance accepted q' records' (lost ++ lost') := by
  obtain ⟨hqueued, hsettings, hrunning⟩ := hpass.same
  have hwaiting : ∀ k, q'.waitingFor k = q.waitingFor k := fun k => by
    rw [WriteQueue.waitingFor, WriteQueue.waitingFor, hqueued]
  have hheld := hpass.held_eq
  refine ⟨hqueued ▸ h.distinct, fun k => ?_, ?_, fun hend => ?_⟩
  · rw [h.balance k, hwaiting k, hpass.handled_eq, hheld]
    rcases h.lost_eq with rfl | ⟨hnone, -⟩
    · simp [pointsFor]
    · -- Nothing was held, so nothing is handed over, lost or held now.
      rw [hheld, List.append_eq_nil_iff, List.append_eq_nil_iff] at hnone
      obtain ⟨⟨rfl, rfl⟩, hnone⟩ := hnone
      simp [hnone]
  · rcases h.lost_eq with rfl | ⟨hnone, hwhy⟩
    · by_cases hfailed : q'.phase = .failed
      · exact .inr ⟨by rw [hfailed]; rfl, .inl hfailed⟩
      · exact .inl (hpass.lost_eq hfailed)
    · rw [hheld, List.append_eq_nil_iff] at hnone
      refine .inr ⟨hnone.2, .inr ?_⟩
      rw [hsettings]
      exact hwhy.resolve_left hphase
  · rw [hqueued, hrunning]
    exact h.ended (hpass.ended hend)

/-- Everything that waits is lost if it is taken without being cut into chunks. -/
lemma lose [PartialEquivBEq δ] (h : Balance accepted q records lost)
    (hheld : q.phase.held = []) {phase : WriterPhase δ α κ} (hnone : phase.held = [])
    (hphase : phase = .failed ∨ ChunkSize.ofValue q.settings.batchSize = .noChunks)
    (hend : phase ≠ .finished) :
    Balance accepted { q with queued := .empty, phase } records
      (lost ++ q.queued.entries.map Lot.entry) := by
  refine ⟨OrderedMap.distinctKeys_empty, fun k => ?_, .inr ⟨hnone, hphase⟩,
    fun h => absurd h hend⟩
  rw [h.balance k, hheld, hnone, pointsFor_append, WriteQueue.pointsFor_entries h.distinct,
    ← List.append_assoc]
  simp [pointsFor, WriteQueue.waitingFor, OrderedMap.find?, OrderedMap.empty, OrderedMap.lookup]

/-- **What the writer takes** is held or, if there are no chunks of that size, lost. -/
lemma take [PartialEquivBEq δ] (h : Balance accepted q records lost) (hphase : q.phase = .idle) :
    ∃ lost', Balance accepted q.take records lost' := by
  have hheld : q.phase.held = [] := by rw [hphase]; rfl
  have hdistinct : q.take.queued.DistinctKeys := OrderedMap.distinctKeys_empty
  cases hsize : ChunkSize.ofValue q.settings.batchSize with
  | atMost size =>
    have hlost : lost = [] := by
      rcases h.lost_eq with hlost | ⟨-, hfailed | hnone⟩
      · exact hlost
      · rw [hphase] at hfailed
        cases hfailed
      · rw [hsize] at hnone
        cases hnone
    refine ⟨lost, hdistinct, fun k => ?_, .inl hlost, fun hend => ?_⟩
    · rw [h.balance k, hheld, WriteQueue.pointsFor_held_take h.distinct hsize,
        WriteQueue.waitingFor_take]
      simp [pointsFor]
    · simp only [WriteQueue.take, hsize, chunksOf?] at hend
      exact absurd hend (WriterPhase.ofChunks_ne_finished _)
  | noChunks =>
    have htake : q.take = { q with queued := .empty, phase := .idle } := by
      simp only [WriteQueue.take, hsize, chunksOf?]
      rfl
    rw [htake]
    exact ⟨_, h.lose hheld rfl (.inr hsize) (by simp)⟩
  | unusable =>
    have htake : q.take = { q with queued := .empty, phase := .failed } := by
      simp only [WriteQueue.take, hsize, chunksOf?]
    rw [htake]
    exact ⟨_, h.lose hheld rfl (.inl rfl) (by simp)⟩

/-- **No step of the writer breaks the balance**, whatever fails. -/
lemma step [PartialEquivBEq δ] {o : Outlet ω δ α κ} {w : Recorded ω (OutletRecord δ α κ)}
    (h : Balance accepted q w.records lost) :
    ∃ lost', Balance accepted (q.step o.recorded w).1 (q.step o.recorded w).2.records lost' := by
  by_cases hfailed : q.phase = .failed
  · rw [WriteQueue.step_of_failed hfailed]
    exact ⟨lost, h⟩
  by_cases hidle : q.phase = .idle
  · simp only [WriteQueue.step, hidle]
    split
    · exact h.take hidle
    · next hempty =>
      split
      · exact ⟨lost, h⟩
      · next hclosed =>
        refine ⟨lost, h.distinct, fun k => ?_, ?_, fun _ => ⟨by simpa using hempty, ?_⟩⟩
        · have hbalance := h.balance k
          rw [hidle] at hbalance
          exact hbalance
        · rcases h.lost_eq with hlost | ⟨-, hwhy⟩
          · exact .inl hlost
          · exact .inr ⟨rfl, .inr (hwhy.resolve_left hfailed)⟩
        · simpa using hclosed
  · obtain ⟨handed, lost', hpass⟩ := WriteQueue.exists_passes (o := o) q w hidle
    exact ⟨_, h.pass hpass hfailed⟩

/-- A queue that accepts points has more of them waiting. -/
lemma store [PartialEquivBEq δ] (h : Balance accepted q records lost)
    (hopen : q.running = true) (database : δ) (points : List α) (cookies : List κ) :
    Balance (accepted ++ [(database, points)]) (q.store database points cookies) records lost := by
  refine ⟨OrderedMap.distinctKeys_insert h.distinct _ _, fun k => ?_, h.lost_eq, fun hend => ?_⟩
  · have hlast : pointsFor k [(database, points)] = if database == k then points else [] := by
      rw [pointsFor_eq_flatMap, List.flatMap_singleton]
    rw [pointsFor_append, hlast, h.balance k, WriteQueue.waitingFor_store, List.append_assoc]
    rfl
  · have hclosed := (h.ended hend).2
    rw [hopen] at hclosed
    cases hclosed

/-- Flags that only the closing thread looks at do not matter. -/
lemma reflag (h : Balance accepted q records lost) (running stopping hasWriter : Bool)
    (hrunning : running = true → q.running = true) :
    Balance accepted { q with running, stopping, hasWriter } records lost := by
  refine ⟨h.distinct, h.balance, h.lost_eq, fun hend => ⟨(h.ended hend).1, ?_⟩⟩
  have hclosed := (h.ended hend).2
  cases running with
  | false => rfl
  | true => rw [hrunning rfl] at hclosed; cases hclosed

end Balance

/-! ## Runs -/

namespace SharedQueue

variable [BEq δ] {o : Outlet ω δ α κ} {accepted lost : List (δ × List α)}
  {s : SharedQueue (Recorded ω (OutletRecord δ α κ)) δ α κ}

/-- The runs of an outlet whose callbacks may fail, with the points that have been accepted. Points
come with any cookies. -/
inductive Runs (o : Outlet ω δ α κ) (settings : QueueSettings) (world : ω) :
    List (δ × List α) → SharedQueue ω δ α κ → Prop where
  /-- A queue that was just made. -/
  | new : Runs o settings world [] (.new settings world)
  /-- A queue that accepts points. -/
  | offer {accepted : List (δ × List α)} {s : SharedQueue ω δ α κ} {queue : WriteQueue δ α κ}
    (h : Runs o settings world accepted s) (database : δ) (points : List α) (cookies : List κ)
    (haccept : s.queue.accept database points cookies = .ok queue) :
    Runs o settings world (accepted ++ [(database, points)]) { s with queue }
  /-- A queue after any other action. -/
  | step {accepted : List (δ × List α)} {s : SharedQueue ω δ α κ}
    (h : Runs o settings world accepted s) (a : Action δ α κ)
    (ha : ∀ database items, a ≠ .append database items) :
    Runs o settings world accepted (s.step o a)

/-- A queue after any number of actions that add no points. -/
lemma Runs.foldl {o : Outlet ω δ α κ} {settings : QueueSettings} {world : ω}
    {s : SharedQueue ω δ α κ} (h : Runs o settings world accepted s)
    (actions : List (Action δ α κ))
    (hactions : ∀ a ∈ actions, ∀ database items, a ≠ .append database items) :
    Runs o settings world accepted (actions.foldl (SharedQueue.step o) s) := by
  induction actions generalizing s with
  | nil => exact h
  | cons a actions ih =>
    exact ih (h.step a (hactions a List.mem_cons_self))
      fun a' ha' => hactions a' (List.mem_cons_of_mem a ha')

variable [PartialEquivBEq δ]

/-- A step of the writer keeps the balance. -/
lemma exists_balance_writerStep (h : Balance accepted s.queue s.world.records lost)
    (elapsed : Bool) : ∃ lost', Balance accepted (s.writerStep o.recorded elapsed).queue
      (s.writerStep o.recorded elapsed).world.records lost' := by
  have hadvance : ∃ lost', Balance accepted (s.advance o.recorded).queue
      (s.advance o.recorded).world.records lost' := h.step
  unfold writerStep
  split
  · next hidle =>
    split
    · exact ⟨lost, h⟩
    · split
      · exact hadvance
      · split
        · -- It cannot be told whether enough points have been gathered.
          refine ⟨lost, h.distinct, fun k => ?_, ?_, nofun⟩
          · have hbalance := h.balance k
            rw [hidle] at hbalance
            exact hbalance
          · exact h.lost_eq.imp id fun _ => ⟨rfl, .inl rfl⟩
        · split
          · exact hadvance
          · exact ⟨lost, h⟩
  · exact ⟨lost, h⟩
  · exact ⟨lost, h⟩
  · exact hadvance

/-- An action that adds no points keeps the balance. -/
lemma exists_balance_step (h : Balance accepted s.queue s.world.records lost)
    (a : Action δ α κ) (ha : ∀ database items, a ≠ .append database items) :
    ∃ lost', Balance accepted (s.step o.recorded a).queue (s.step o.recorded a).world.records
      lost' := by
  cases a with
  | append database items => exact absurd rfl (ha database items)
  | beginFlush =>
    simp only [SharedQueue.step]
    split <;> exact ⟨lost, h⟩
  | endFlush =>
    simp only [SharedQueue.step]
    split <;> exact ⟨lost, h⟩
  | refuse =>
    simp only [SharedQueue.step]
    split
    · exact ⟨lost, h.reflag false _ _ (by simp)⟩
    · exact ⟨lost, h⟩
  | abandon =>
    simp only [SharedQueue.step]
    split
    · exact ⟨lost, h⟩
    · exact ⟨lost, h.reflag _ true _ id⟩
  | join =>
    simp only [SharedQueue.step]
    split
    · exact ⟨lost, h.reflag _ _ false id⟩
    · exact ⟨lost, h⟩
  | write elapsed => exact exists_balance_writerStep h elapsed

/-- **No run breaks the balance**, whatever fails in it. -/
lemma Runs.exists_balance {settings : QueueSettings} {world : ω}
    (hs : Runs o.recorded settings ⟨world, []⟩ accepted s) :
    ∃ lost, Balance accepted s.queue s.world.records lost := by
  induction hs with
  | new => exact ⟨[], .nil, fun _ => rfl, .inl rfl, nofun⟩
  | @offer accepted s queue h database points cookies haccept ih =>
    obtain ⟨lost, h⟩ := ih
    simp only [WriteQueue.accept] at haccept
    split at haccept
    · next hopen =>
      cases haccept
      exact ⟨lost, h.store hopen database points cookies⟩
    · cases haccept
  | step _ a ha ih =>
    obtain ⟨lost, h⟩ := ih
    exact exists_balance_step h a ha

omit [PartialEquivBEq δ] in
/-- A writer that has failed does nothing more, whatever the threads do. -/
lemma step_of_failed {o : Outlet ω δ α κ} {s : SharedQueue ω δ α κ}
    (hs : s.queue.phase = .failed) (a : Action δ α κ) :
    (s.step o a).queue.phase = .failed ∧ (s.step o a).world = s.world := by
  cases a with
  | append database items =>
    simp only [step, append, WriteQueue.accept]
    by_cases hopen : s.queue.running = true
    · rw [if_pos hopen]
      exact ⟨hs, rfl⟩
    · rw [if_neg hopen]
      exact ⟨hs, rfl⟩
  | write elapsed =>
    simp only [step, writerStep, hs]
    exact ⟨trivial, trivial⟩
  | beginFlush | endFlush | refuse | abandon | join =>
    simp only [step]
    split <;> exact ⟨hs, rfl⟩

omit [PartialEquivBEq δ] in
/-- A writer that has failed never does anything again. -/
lemma foldl_step_of_failed {o : Outlet ω δ α κ} {s : SharedQueue ω δ α κ}
    (hs : s.queue.phase = .failed) (actions : List (Action δ α κ)) :
    (actions.foldl (step o) s).queue.phase = .failed ∧
      (actions.foldl (step o) s).world = s.world := by
  induction actions generalizing s with
  | nil => exact ⟨hs, rfl⟩
  | cons a actions ih =>
    obtain ⟨hstep, hworld⟩ := step_of_failed (o := o) hs a
    rw [List.foldl_cons, ← hworld]
    exact ih hstep

/-- What becomes of points if anything may fail. -/
structure Fates (o : Outlet ω δ α κ) (accepted : List (δ × List α))
    (s : SharedQueue (Recorded ω (OutletRecord δ α κ)) δ α κ) : Prop where
  /-- Every point that was accepted is handled, lost, held or waiting. -/
  balance : ∃ lost, Balance accepted s.queue s.world.records lost
  /-- As long as the writer has not failed, every point is handled or waits whenever the writer
  holds nothing. -/
  settled : ∀ size, ChunkSize.ofValue s.queue.settings.batchSize = .atMost size →
    s.queue.phase ≠ .failed → s.queue.phase.held = [] → ∀ k, pointsFor k accepted =
      pointsFor k (handledOf s.world.records) ++ s.queue.waitingFor k
  /-- When the writer fails, everything that it held is lost, but for the chunk that it has just
  handed over. -/
  fails : ∀ size elapsed, ChunkSize.ofValue s.queue.settings.batchSize = .atMost size →
    s.queue.phase ≠ .failed → (s.writerStep o.recorded elapsed).queue.phase = .failed →
      ∃ handed lost, handed.length ≤ 1 ∧ s.queue.phase.held = handed ++ lost ∧
        handledOf (s.writerStep o.recorded elapsed).world.records =
          handledOf s.world.records ++ handed ∧
        Balance accepted (s.writerStep o.recorded elapsed).queue
          (s.writerStep o.recorded elapsed).world.records lost
  /-- Once the writer has failed, nothing more is handled. -/
  stuck : s.queue.phase = .failed → ∀ actions : List (Action δ α κ),
    (actions.foldl (step o.recorded) s).queue.phase = .failed ∧
      (actions.foldl (step o.recorded) s).world = s.world
  /-- The writer returns only if it has failed, or if the queue has been closed and emptied. -/
  ended : s.hasEnded = true →
    s.queue.phase = .failed ∨ s.queue.queued.isEmpty = true ∧ s.queue.running = false

omit [BEq δ] [PartialEquivBEq δ] in
/-- A writer that holds something goes on with the queue. -/
lemma writerStep_of_ne_idle {o : Outlet ω δ α κ} {s : SharedQueue ω δ α κ}
    (hs : s.queue.phase ≠ .idle) (elapsed : Bool) :
    (s.writerStep o elapsed).queue = (s.queue.step o s.world).1 ∧
      (s.writerStep o elapsed).world = (s.queue.step o s.world).2 := by
  unfold writerStep
  split
  · next hidle => exact absurd hidle hs
  · next hfailed =>
    rw [WriteQueue.step_of_failed hfailed]
    exact ⟨rfl, rfl⟩
  · next hfinished =>
    simp only [WriteQueue.step, hfinished]
    exact ⟨trivial, trivial⟩
  · exact ⟨rfl, rfl⟩

omit [BEq δ] [PartialEquivBEq δ] in
/-- A writer that holds nothing does not fail if the size of chunks can be used. -/
lemma writerStep_ne_failed {size : Nat}
    (hsize : ChunkSize.ofValue s.queue.settings.batchSize = .atMost size)
    (hs : s.queue.phase = .idle) (elapsed : Bool) :
    (s.writerStep o.recorded elapsed).queue.phase ≠ .failed := by
  have hadvance : (s.advance o.recorded).queue.phase ≠ .failed := by
    simp only [advance, WriteQueue.step, hs]
    split
    · simp only [WriteQueue.take, hsize, chunksOf?]
      exact WriterPhase.ofChunks_ne_failed _
    · split
      · simp [hs]
      · simp
  have hstay : s.queue.phase ≠ .failed := by simp [hs]
  obtain ⟨gathered, hgathered⟩ := exists_gathered hsize
  simp only [writerStep, hs, hgathered]
  split
  · exact hstay
  · split
    · exact hadvance
    · split
      · exact hadvance
      · exact hstay

omit [PartialEquivBEq δ] in
/-- **What a writer loses by failing** is what it held, but for the chunk that it has just handed
over. -/
lemma exists_lost (h : Balance accepted s.queue s.world.records lost) {size : Nat}
    (hsize : ChunkSize.ofValue s.queue.settings.batchSize = .atMost size)
    (hphase : s.queue.phase ≠ .failed) {elapsed : Bool}
    (hfails : (s.writerStep o.recorded elapsed).queue.phase = .failed) :
    ∃ handed lost', handed.length ≤ 1 ∧ s.queue.phase.held = handed ++ lost' ∧
      handledOf (s.writerStep o.recorded elapsed).world.records =
        handledOf s.world.records ++ handed ∧
      Balance accepted (s.writerStep o.recorded elapsed).queue
        (s.writerStep o.recorded elapsed).world.records lost' := by
  have hidle : s.queue.phase ≠ .idle := fun hidle => writerStep_ne_failed hsize hidle elapsed hfails
  obtain ⟨hqueue, hworld⟩ := writerStep_of_ne_idle (o := o.recorded) hidle elapsed
  obtain ⟨handed, lost', hpass⟩ := WriteQueue.exists_passes (o := o) s.queue s.world hidle
  rw [← hqueue, ← hworld] at hpass
  have hlost : lost = [] := by
    rcases h.lost_eq with hlost | ⟨-, hfailed | hnone⟩
    · exact hlost
    · exact absurd hfailed hphase
    · rw [hsize] at hnone
      cases hnone
  have hbalance := h.pass hpass hphase
  rw [hlost, List.nil_append] at hbalance
  have hheld := hpass.held_eq
  rw [hfails, WriterPhase.held_failed, List.append_nil] at hheld
  exact ⟨handed, lost', hpass.handed_le, hheld, hpass.handled_eq, hbalance⟩

/-- **What becomes of points if anything may fail.** After any run, every point that was accepted
is handled, lost, held by the writer, or waiting. Nothing is lost before the writer fails; when
it fails, all that it held is lost but for the chunk just handed over; and after that nothing is
handled any more, although the queue has not been closed.

**Proof sketch.** Induction on the run (`Runs.exists_balance`). A step that fails is one with
something in hand, and `WriteQueue.exists_passes` tells where it leaves this. -/
theorem Runs.fates {settings : QueueSettings} {world : ω}
    (hs : Runs o.recorded settings ⟨world, []⟩ accepted s) : Fates o accepted s := by
  obtain ⟨lost, h⟩ := hs.exists_balance
  refine ⟨⟨lost, h⟩, fun size hsize hphase hheld => h.settled hsize hphase hheld,
    fun size elapsed hsize hphase hfails => exists_lost h hsize hphase hfails,
    fun hfailed actions => foldl_step_of_failed hfailed actions, fun hended => ?_⟩
  unfold hasEnded at hended
  split at hended
  · next hfailed => exact .inl hfailed
  · next hfinished => exact .inr (h.ended hfinished)
  · cases hended

/-- An outlet that writes everything, and whose confirmations fail. -/
def brittleOutlet : Outlet Unit String Nat Nat where
  write _ _ w := (.ok (), w)
  confirm _ _ w := (.error (.runtime "no answer"), w)
  drop _ _ _ w := (.ok (), w)
  pause _ _ _ w := (false, w)

/-- Two points in chunks of one, of which the first has just been written and could not be
confirmed. -/
def brokenOff : SharedQueue (Recorded Unit (OutletRecord String Nat Nat)) String Nat Nat :=
  let q := (WriteQueue.new { batchSize := .int 1 } : WriteQueue String Nat Nat).store "weather"
    [1, 2] [10, 20]
  let s : SharedQueue (Recorded Unit (OutletRecord String Nat Nat)) String Nat Nat :=
    { SharedQueue.new { batchSize := .int 1 } ⟨(), []⟩ with queue := q }
  [Action.write true, .write true, .write true, .write true].foldl (step brittleOutlet.recorded) s

/-- The run of two points, of which the first could not be confirmed. -/
lemma runs_brokenOff : Runs brittleOutlet.recorded { batchSize := .int 1 } ⟨(), []⟩
    [("weather", [1, 2])] brokenOff := by
  have hoffer : Runs brittleOutlet.recorded { batchSize := .int 1 } ⟨(), []⟩
      [("weather", [1, 2])] { SharedQueue.new { batchSize := .int 1 } ⟨(), []⟩ with
        queue := (WriteQueue.new { batchSize := .int 1 }).store "weather" [1, 2] [10, 20] } :=
    Runs.new.offer "weather" [1, 2] [10, 20] rfl
  exact hoffer.foldl [.write true, .write true, .write true, .write true] (by simp)

/-- What becomes of two points, of which the first could not be confirmed. -/
theorem fates_brokenOff :
    Runs brittleOutlet.recorded { batchSize := .int 1 } ⟨(), []⟩ [("weather", [1, 2])] brokenOff ∧
      Fates brittleOutlet [("weather", [1, 2])] brokenOff :=
  ⟨runs_brokenOff, runs_brokenOff.fates⟩

/-- **A point vanishes when a callback fails**: the writer has ended although the queue has not
been closed, it holds nothing, and the second of two points neither waits nor was handled. -/
theorem vanished_brokenOff :
    Runs brittleOutlet.recorded { batchSize := .int 1 } ⟨(), []⟩ [("weather", [1, 2])] brokenOff ∧
      (brokenOff.hasEnded = true ∧ ¬ brokenOff.queue.running = false) ∧
      brokenOff.queue.phase.held = [] ∧ 2 ∈ pointsFor "weather" [("weather", [1, 2])] ∧
      2 ∉ pointsFor "weather" (handledOf brokenOff.world.records) ++
        brokenOff.queue.waitingFor "weather" :=
  ⟨runs_brokenOff, ⟨rfl, by decide⟩, rfl, by decide, by decide⟩

end SharedQueue

end SeriesClient
