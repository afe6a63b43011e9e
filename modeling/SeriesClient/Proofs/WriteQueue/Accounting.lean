import SeriesClient.Proofs.WriteQueue.Chunks
import SeriesClient.Proofs.WriteQueue.Sharing

set_option relaxedAutoImplicit false
set_option autoImplicit false

/-!
# No point is lost

Whatever the threads do, and in whatever order, every point that was accepted is in exactly one
place: in a chunk that is finished, in a chunk that the writer holds, or in the queue.

## Main definitions

* `SeriesClient.ChunkOutcome` — how a chunk was finished, and what the outlet was told of it.
* `SeriesClient.Holding` — the chunks that the writer holds in a phase.
* `SeriesClient.Accounted` — where all points are.

## Main results

* `SeriesClient.SharedQueue.writerStep_cases_of_idle` — what a writer without a chunk in hand does.
* `SeriesClient.SharedQueue.IsAccounted.step` — no action breaks the account.
* `SeriesClient.SharedQueue.Reachable.isAccounted` — the account holds after every run.

## Design

The account does not depend on the flags of the threads, only on the queue, on the record of
the outlet and on what was accepted. It is kept for each database, since the writer works
off one database after the other.
-/

namespace SeriesClient

variable {ω δ α κ : Type}

/-! ## The account -/

/-- How a chunk was finished. -/
inductive ChunkOutcome (δ α κ : Type) where
  /-- It was written, and each of its points was confirmed. -/
  | delivered (c : Chunk δ α κ)
  /-- It was dropped as a whole. -/
  | dropped (c : Chunk δ α κ) (fault : Fault)

namespace ChunkOutcome

/-- The chunk that was finished. -/
def chunk : ChunkOutcome δ α κ → Chunk δ α κ
  | delivered c => c
  | dropped c _ => c

/-- What the outlet was told of the chunk: one successful write and a confirmation of each
point with its cookie in order, or one drop. -/
def records : ChunkOutcome δ α κ → List (OutletRecord δ α κ)
  | delivered c => .written c.database c.points :: c.items.map fun i => .confirmed i.1 i.2
  | dropped c fault => [.dropped c.database c.points fault]

end ChunkOutcome

/-- The chunks that the writer holds in a phase, the one in progress first, and what the outlet
was told of this one so far. -/
inductive Holding :
    WriterPhase δ α κ → List (Chunk δ α κ) → List (OutletRecord δ α κ) → Prop where
  | idle : Holding .idle [] []
  | finished : Holding .finished [] []
  | attempting (retries : Nat) (c : Chunk δ α κ) (rest : List (Chunk δ α κ)) :
    Holding (.attempting retries c rest) (c :: rest) []
  | pausing (retries : Nat) (c : Chunk δ α κ) (fault : Fault) (rest : List (Chunk δ α κ)) :
    Holding (.pausing retries c fault rest) (c :: rest) []
  | confirming (c : Chunk δ α κ) (rest : List (Chunk δ α κ)) {told left : List (α × κ)}
    (h : c.items = told ++ left) :
    Holding (.confirming left rest) (c :: rest)
      (.written c.database c.points :: told.map fun i => .confirmed i.1 i.2)

/-- Before the first of some chunks, the writer holds all of them. -/
lemma Holding.ofChunks (chunks : List (Chunk δ α κ)) : Holding (.ofChunks chunks) chunks [] := by
  cases chunks with
  | nil => exact .idle
  | cons c rest => exact .attempting 0 c rest

section Account

variable [BEq δ]

/-- The items that were accepted for a database. -/
def acceptedFor (k : δ) (accepted : List (δ × List (α × κ))) : List (α × κ) :=
  (accepted.filter (·.1 == k)).flatMap Prod.snd

/-- Where all points are: which chunks are finished and how, and which chunks the writer
holds. -/
structure Accounted (size : Nat) (accepted : List (δ × List (α × κ))) (q : WriteQueue δ α κ)
    (records : List (OutletRecord δ α κ)) (finished : List (ChunkOutcome δ α κ))
    (held : List (Chunk δ α κ)) (told : List (OutletRecord δ α κ)) : Prop where
  /-- The greatest number of points in a chunk. -/
  size_eq : ChunkSize.ofValue q.settings.batchSize = .atMost size
  /-- The writer holds the chunks. -/
  holding : Holding q.phase held told
  /-- The outlet was told of the chunks that are finished, one after the other and each in one
  way, then of the chunk in progress, and of nothing else. -/
  records_eq : records = finished.flatMap ChunkOutcome.records ++ told
  /-- No chunk is empty or too large, and each point has a cookie. -/
  sized : ∀ c ∈ finished.map ChunkOutcome.chunk ++ held, c.IsSized size
  /-- Each point that waits has a cookie. -/
  paired : q.Paired
  /-- What was accepted for a database is in the finished chunks, in the chunks that the writer
  holds, and in the queue, in this order. -/
  balance : ∀ k, acceptedFor k accepted =
    itemsFor k (finished.map ChunkOutcome.chunk) ++ itemsFor k held ++ q.queuedFor k
  /-- The writer ends only when the queue has been closed and emptied. -/
  ended : q.phase = .finished → q.queued.isEmpty = true ∧ q.running = false

end Account

/-! ## Steps of the writer -/

namespace WriteQueue

variable {o : Outlet ω δ α κ}

/-- A chunk that is dropped is recorded, and the writer goes on with the rest. -/
lemma exists_discard (ho : o.CallbacksReturn) (q : WriteQueue δ α κ) (c : Chunk δ α κ)
    (fault : Fault) (rest : List (Chunk δ α κ)) (w : Recorded ω (OutletRecord δ α κ)) :
    ∃ world, q.discard o.recorded c fault rest w =
      ({ q with phase := .ofChunks rest },
        ⟨world, w.records ++ [.dropped c.database c.points fault]⟩) := by
  have hdrop := ho.drop c.database c.points fault w.world
  rcases h : o.drop c.database c.points fault w.world with ⟨result, world⟩
  obtain rfl : result = .ok () := by rw [← hdrop, h]
  refine ⟨world, ?_⟩
  simp only [discard, Outlet.recorded, h]

/-- An attempt succeeds and is recorded, or ends in a drop, or in a pause. -/
lemma attempt_cases (ho : o.CallbacksReturn) {q : WriteQueue δ α κ} {retries : Nat}
    {c : Chunk δ α κ} {rest : List (Chunk δ α κ)} {w : Recorded ω (OutletRecord δ α κ)}
    (hphase : q.phase = .attempting retries c rest) (hdelay : q.DelayReturns o.recorded w) :
    (∃ world, q.attempt o.recorded retries c rest w =
      ({ q with phase := .confirming c.items rest },
        ⟨world, w.records ++ [.written c.database c.points]⟩)) ∨
    (∃ world fault, q.attempt o.recorded retries c rest w =
      ({ q with phase := .ofChunks rest },
        ⟨world, w.records ++ [.dropped c.database c.points fault]⟩)) ∨
    ∃ world fault stopping, q.attempt o.recorded retries c rest w =
      ({ q with stopping, phase := .pausing (retries + 1) c fault rest }, ⟨world, w.records⟩) := by
  rcases hwrite : o.write c.database c.points w.world with ⟨fault | _, world⟩
  · have hrecorded : o.recorded.write c.database c.points w =
        (.error fault, ⟨world, w.records⟩) := by
      simp only [Outlet.recorded, hwrite]
    obtain ⟨verdict, hverdict⟩ := hdelay retries c rest fault hphase (by rw [hrecorded])
    simp only [attempt, hrecorded, hverdict]
    cases verdict with
    | drop =>
      obtain ⟨world', hdiscard⟩ := exists_discard ho q c fault rest ⟨world, w.records⟩
      exact .inr (.inl ⟨world', fault, hdiscard⟩)
    | retry delay => exact .inr (.inr ⟨_, fault, _, rfl⟩)
  · refine .inl ⟨world, ?_⟩
    simp only [attempt, Outlet.recorded, hwrite]
    rfl

/-- A point that is confirmed is recorded. -/
lemma exists_confirm (ho : o.CallbacksReturn) {q : WriteQueue δ α κ} {i : α × κ}
    {left : List (α × κ)} {rest : List (Chunk δ α κ)} (w : Recorded ω (OutletRecord δ α κ))
    (hphase : q.phase = .confirming (i :: left) rest) :
    ∃ world, q.step o.recorded w =
      ({ q with phase := .confirming left rest }, ⟨world, w.records ++ [.confirmed i.1 i.2]⟩) := by
  have hconfirm := ho.confirm i.1 i.2 w.world
  rcases h : o.confirm i.1 i.2 w.world with ⟨result, world⟩
  obtain rfl : result = .ok () := by rw [← hconfirm, h]
  refine ⟨world, ?_⟩
  simp only [step, hphase, Outlet.recorded, h]

/-- **What a writer does with the chunk in hand**: it tells the outlet more of it, or finishes it
and goes on with the rest. -/
lemma step_of_holding (ho : o.CallbacksReturn) {q : WriteQueue δ α κ}
    {w : Recorded ω (OutletRecord δ α κ)} {held : List (Chunk δ α κ)}
    {told : List (OutletRecord δ α κ)} (h : Holding q.phase held told) (hidle : q.phase ≠ .idle)
    (hend : q.phase ≠ .finished) (hdelay : q.DelayReturns o.recorded w) :
    (∃ phase stopping world more, q.step o.recorded w =
      ({ q with stopping, phase }, ⟨world, w.records ++ more⟩) ∧ Holding phase held (told ++ more) ∧
        phase ≠ .finished) ∨
    ∃ outcome : ChunkOutcome δ α κ, ∃ rest world more, q.step o.recorded w =
      ({ q with phase := .ofChunks rest }, ⟨world, w.records ++ more⟩) ∧
        held = outcome.chunk :: rest ∧ outcome.records = told ++ more := by
  cases hphase : q.phase with
  | idle => exact absurd hphase hidle
  | failed =>
    rw [hphase] at h
    cases h
  | finished => exact absurd hphase hend
  | attempting retries c rest =>
    rw [hphase] at h
    cases h
    simp only [step, hphase]
    obtain ⟨world, hattempt⟩ | ⟨world, fault, hattempt⟩ | ⟨world, fault, stopping, hattempt⟩ :=
      attempt_cases ho hphase hdelay
    · exact .inl ⟨_, _, world, _, hattempt, .confirming c rest (List.nil_append _).symm, nofun⟩
    · exact .inr ⟨.dropped c fault, rest, world, _, hattempt, rfl, rfl⟩
    · refine .inl ⟨.pausing (retries + 1) c fault rest, stopping, world, [], ?_,
        .pausing _ c fault rest, nofun⟩
      rw [hattempt, List.append_nil]
  | pausing retries c fault rest =>
    rw [hphase] at h
    cases h
    simp only [step, hphase]
    by_cases hstopping : q.stopping = true
    · rw [if_pos hstopping]
      obtain ⟨world, hdiscard⟩ := exists_discard ho q c fault rest w
      exact .inr ⟨.dropped c fault, rest, world, _, hdiscard, rfl, rfl⟩
    · rw [if_neg hstopping]
      refine .inl ⟨.attempting retries c rest, q.stopping, w.world, [], ?_,
        .attempting _ c rest, nofun⟩
      rw [List.append_nil]
  | confirming left rest =>
    rw [hphase] at h
    cases h with
    | @confirming c _ done _ hitems =>
      cases left with
      | nil =>
        have hdone : c.items = done := by simpa using hitems
        refine .inr ⟨.delivered c, rest, w.world, [], ?_, rfl, ?_⟩
        · simp only [step, hphase, List.append_nil]
        · simp [ChunkOutcome.records, hdone]
      | cons i left =>
        obtain ⟨world, hconfirm⟩ := exists_confirm ho w hphase
        have hsplit : c.items = (done ++ [i]) ++ left := by simpa using hitems
        refine .inl ⟨_, _, world, _, hconfirm, ?_, nofun⟩
        simpa using Holding.confirming c rest hsplit

end WriteQueue

section Account

variable [BEq δ] {size : Nat} {accepted : List (δ × List (α × κ))} {q : WriteQueue δ α κ}
  {records : List (OutletRecord δ α κ)} {finished : List (ChunkOutcome δ α κ)}
  {c : Chunk δ α κ} {held rest : List (Chunk δ α κ)} {told : List (OutletRecord δ α κ)}

namespace Accounted

/-- The writer goes on with the chunk in progress: the outlet may be told more of it. -/
lemma goOn (h : Accounted size accepted q records finished held told) (stopping : Bool)
    (phase : WriterPhase δ α κ) (more : List (OutletRecord δ α κ))
    (hholding : Holding phase held (told ++ more)) (hne : phase ≠ .finished) :
    Accounted size accepted { q with stopping, phase } (records ++ more) finished held
      (told ++ more) where
  size_eq := h.size_eq
  holding := hholding
  records_eq := by rw [h.records_eq, List.append_assoc]
  sized := h.sized
  paired := ⟨h.paired.distinct, h.paired.cookies⟩
  balance := h.balance
  ended := fun hphase => absurd hphase hne

/-- The writer finishes the chunk in progress, and goes on with the rest. -/
lemma finish (h : Accounted size accepted q records finished (c :: rest) told)
    (more : List (OutletRecord δ α κ)) (outcome : ChunkOutcome δ α κ)
    (hchunk : outcome.chunk = c) (hrecords : outcome.records = told ++ more) :
    Accounted size accepted { q with phase := .ofChunks rest } (records ++ more)
      (finished ++ [outcome]) rest [] where
  size_eq := h.size_eq
  holding := Holding.ofChunks rest
  records_eq := by
    rw [h.records_eq, List.flatMap_append, List.flatMap_singleton, hrecords, List.append_nil,
      List.append_assoc]
  sized := by simpa [hchunk] using h.sized
  paired := ⟨h.paired.distinct, h.paired.cookies⟩
  balance k := by
    have hheld : itemsFor k (c :: rest) = itemsFor k [c] ++ itemsFor k rest :=
      itemsFor_append k [c] rest
    rw [h.balance k, List.map_append, List.map_singleton, hchunk, itemsFor_append, hheld]
    simp only [List.append_assoc]
    rfl
  ended := fun hphase => by cases rest <;> cases hphase

/-- The writer takes everything that waits. -/
lemma take [PartialEquivBEq δ] (h : Accounted size accepted q records finished held told)
    (hphase : q.phase = .idle) :
    ∃ held', Accounted size accepted q.take records finished held' [] := by
  have hheld : held = [] ∧ told = [] := by
    have hholding := h.holding
    rw [hphase] at hholding
    cases hholding
    exact ⟨rfl, rfl⟩
  obtain ⟨rfl, rfl⟩ := hheld
  have pos := ChunkSize.pos_of_ofValue h.size_eq
  obtain ⟨chunks, hchunks, hsized, hitems⟩ := WriteQueue.itemsFor_chunks h.paired pos
  have htake : q.take = { q with queued := .empty, phase := .ofChunks chunks } := by
    simp only [WriteQueue.take, h.size_eq, hchunks]
  refine ⟨chunks, ?_⟩
  rw [htake]
  refine ⟨h.size_eq, Holding.ofChunks chunks, h.records_eq, ?_, ?_, fun k => ?_, fun hend => ?_⟩
  · intro c hc
    rcases List.mem_append.1 hc with hc | hc
    · exact h.sized c (List.mem_append_left _ hc)
    · exact hsized c hc
  · exact ⟨OrderedMap.distinctKeys_empty, fun e he => absurd he List.not_mem_nil⟩
  · rw [h.balance k, hitems k]
    simp [itemsFor, WriteQueue.queuedFor, OrderedMap.find?, OrderedMap.empty, OrderedMap.lookup]
  · cases chunks <;> cases hend

/-- The writer ends when the queue has been closed and emptied. -/
lemma stop (h : Accounted size accepted q records finished held told)
    (hphase : q.phase = .idle) (hempty : q.queued.isEmpty = true) (hclosed : q.running = false) :
    Accounted size accepted { q with phase := .finished } records finished held told := by
  have hholding := h.holding
  rw [hphase] at hholding
  cases hholding
  exact ⟨h.size_eq, .finished, h.records_eq, h.sized, ⟨h.paired.distinct, h.paired.cookies⟩,
    h.balance, fun _ => ⟨hempty, hclosed⟩⟩

/-- Points that are added wait behind those that were there before. -/
lemma store [PartialEquivBEq δ] (h : Accounted size accepted q records finished held told)
    (hopen : q.running = true) (database : δ) (items : List (α × κ)) :
    Accounted size (accepted ++ [(database, items)])
      (q.store database (items.map Prod.fst) (items.map Prod.snd)) records finished held told := by
  refine ⟨h.size_eq, h.holding, h.records_eq, h.sized, h.paired.store database items,
    fun k => ?_, fun hend => ?_⟩
  · have haccepted : acceptedFor k (accepted ++ [(database, items)]) =
        acceptedFor k accepted ++ if database == k then items else [] := by
      by_cases hk : (database == k) = true <;> simp [acceptedFor, hk]
    rw [haccepted, h.balance k, WriteQueue.queuedFor_store h.paired, List.append_assoc]
  · have hclosed := (h.ended hend).2
    rw [hopen] at hclosed
    cases hclosed

/-- Flags that only the closing thread looks at do not matter. -/
lemma reflag (h : Accounted size accepted q records finished held told)
    (running stopping hasWriter : Bool) (hrunning : running = true → q.running = true) :
    Accounted size accepted { q with running, stopping, hasWriter } records finished held told := by
  refine ⟨h.size_eq, h.holding, h.records_eq, h.sized, ⟨h.paired.distinct, h.paired.cookies⟩,
    h.balance, fun hend => ⟨(h.ended hend).1, ?_⟩⟩
  have hclosed := (h.ended hend).2
  cases running with
  | false => rfl
  | true => rw [hrunning rfl] at hclosed; cases hclosed

section Step

variable [PartialEquivBEq δ] {o : Outlet ω δ α κ} {w : Recorded ω (OutletRecord δ α κ)}

/-- Without a chunk in hand, the writer ends, goes on waiting, or takes what waits. -/
lemma step_idle (h : Accounted size accepted q w.records finished held told)
    (hphase : q.phase = .idle) :
    ∃ finished' held' told', Accounted size accepted (q.step o.recorded w).1
      (q.step o.recorded w).2.records finished' held' told' := by
  by_cases hempty : q.queued.isEmpty = true
  · by_cases hrunning : q.running = true
    · have hblocked : q.isBlocked = true := by
        simp [WriteQueue.isBlocked, hphase, hempty, hrunning]
      rw [WriteQueue.step_of_blocked _ _ _ hblocked]
      exact ⟨_, _, _, h⟩
    · have hstop : q.step o.recorded w = ({ q with phase := .finished }, w) := by
        simp [WriteQueue.step, hphase, hempty, hrunning]
      rw [hstop]
      exact ⟨_, _, _, h.stop hphase hempty (by simpa using hrunning)⟩
  · obtain ⟨held', htake⟩ := h.take hphase
    have hstep : q.step o.recorded w = (q.take, w) := by
      simp [WriteQueue.step, hphase, hempty]
    rw [hstep]
    exact ⟨_, _, _, htake⟩

/-- **No step of the writer breaks the account.**

**Proof sketch.** With a chunk in hand, the writer tells the outlet more of it, or finishes it
(`WriteQueue.step_of_holding`). -/
lemma step (h : Accounted size accepted q w.records finished held told) (ho : o.CallbacksReturn)
    (hdelay : q.DelayReturns o.recorded w) :
    ∃ finished' held' told', Accounted size accepted (q.step o.recorded w).1
      (q.step o.recorded w).2.records finished' held' told' := by
  by_cases hidle : q.phase = .idle
  · exact h.step_idle hidle
  · by_cases hend : q.phase = .finished
    · rw [WriteQueue.step_of_blocked _ _ _ (by simp [WriteQueue.isBlocked, hend])]
      exact ⟨_, _, _, h⟩
    · obtain ⟨phase, stopping, world, more, hstep, hholding, hne⟩ |
          ⟨outcome, rest, world, more, hstep, hheld, hrecords⟩ :=
        WriteQueue.step_of_holding ho h.holding hidle hend hdelay
      · rw [hstep]
        exact ⟨_, _, _, h.goOn stopping phase more hholding hne⟩
      · rw [hstep]
        subst hheld
        exact ⟨_, _, _, h.finish more outcome rfl hrecords⟩

end Step

end Accounted

end Account

/-! ## Runs -/

namespace SharedQueue

variable [BEq δ] {size : Nat} {o : Outlet ω δ α κ}
  {s : SharedQueue (Recorded ω (OutletRecord δ α κ)) δ α κ}

/-- Every point that was accepted is in one place. -/
def IsAccounted (size : Nat) (s : SharedQueue (Recorded ω (OutletRecord δ α κ)) δ α κ) : Prop :=
  ∃ finished held told, Accounted size s.accepted s.queue s.world.records finished held told

omit [BEq δ] in
/-- With a size that can be used, it can be told whether enough points have been gathered. -/
lemma exists_gathered {s : SharedQueue ω δ α κ}
    (h : ChunkSize.ofValue s.queue.settings.batchSize = .atMost size) :
    ∃ gathered, s.gathered = .ok gathered := by
  unfold gathered
  split
  · exact ⟨true, rfl⟩
  · unfold ChunkSize.ofValue at h
    split at h
    · next n hn => rw [hn]; exact ⟨_, rfl⟩
    · next b hb => rw [hb]; exact ⟨_, rfl⟩
    · next n hn => rw [hn]; exact ⟨_, rfl⟩
    · cases h

omit [BEq δ] in
/-- **What a writer without a chunk in hand does**: it lets go of what it took, ends, takes what
waits, or goes on waiting. -/
theorem writerStep_cases_of_idle {o : Outlet ω δ α κ} {s : SharedQueue ω δ α κ}
    (hsize : ChunkSize.ofValue s.queue.settings.batchSize = .atMost size)
    (hidle : s.queue.phase = .idle) (elapsed : Bool) :
    (s.writing = true ∧ s.writerStep o elapsed = { s with writing := false }) ∨
    (s.writing = false ∧ s.queue.queued.isEmpty = true ∧ s.writerStep o elapsed =
      { s with queue := { s.queue with phase := .finished } }) ∨
    (s.writing = false ∧ s.queue.queued.isEmpty = false ∧ s.writerStep o elapsed =
      { s with queue := s.queue.take, writing := true }) ∨
    (s.queue.running = true ∧ s.writerStep o elapsed = s) := by
  obtain ⟨enough, hgathered⟩ := exists_gathered hsize
  rcases hwriting : s.writing with _ | _
  · rcases hempty : s.queue.queued.isEmpty with _ | _
    · have htake : s.queue.step o s.world = (s.queue.take, s.world) := by
        simp [WriteQueue.step, hidle, hempty]
      by_cases hready : (enough || elapsed) = true
      · refine .inr (.inr (.inl ⟨rfl, rfl, ?_⟩))
        simp [writerStep, hidle, hwriting, hempty, hgathered, hready, advance, htake]
      · refine .inr (.inr (.inr ⟨?_, ?_⟩))
        · -- Once no more points are accepted, enough have been gathered.
          rcases hrunning : s.queue.running with _ | _
          · have hall : s.gathered = .ok true := by simp [gathered, hrunning]
            obtain rfl := Except.ok.inj (hall.symm.trans hgathered)
            exact absurd rfl hready
          · rfl
        · simp [writerStep, hidle, hwriting, hempty, hgathered, hready]
    · rcases hrunning : s.queue.running with _ | _
      · have hstop : s.queue.step o s.world = ({ s.queue with phase := .finished }, s.world) := by
          simp [WriteQueue.step, hidle, hempty, hrunning]
        refine .inr (.inl ⟨rfl, rfl, ?_⟩)
        simp [writerStep, hidle, hwriting, hempty, advance, hstop]
      · have hblocked : s.queue.isBlocked = true := by
          simp [WriteQueue.isBlocked, hidle, hempty, hrunning]
        have hstay : s.advance o = s := by
          simp only [advance, WriteQueue.step_of_blocked _ _ _ hblocked]
        refine .inr (.inr (.inr ⟨rfl, ?_⟩))
        simp [writerStep, hidle, hwriting, hempty, hstay]
  · exact .inl ⟨rfl, by simp [writerStep, hidle, hwriting]⟩

variable [PartialEquivBEq δ]

/-- Going on with the queue keeps the account. -/
lemma IsAccounted.advance (h : s.IsAccounted size) (ho : o.CallbacksReturn)
    (hdelay : s.queue.DelayReturns o.recorded s.world) :
    (s.advance o.recorded).IsAccounted size := by
  obtain ⟨finished, held, told, h⟩ := h
  exact h.step ho hdelay

/-- A step of the writer keeps the account. -/
lemma IsAccounted.writerStep (h : s.IsAccounted size) (ho : o.CallbacksReturn)
    (hdelay : s.queue.DelayReturns o.recorded s.world) (elapsed : Bool) :
    (s.writerStep o.recorded elapsed).IsAccounted size := by
  have hadvance := h.advance ho hdelay
  unfold SharedQueue.writerStep
  split
  · split
    · exact h
    · split
      · exact hadvance
      · obtain ⟨finished, held, told, haccounted⟩ := h
        obtain ⟨gathered, hgathered⟩ := exists_gathered haccounted.size_eq
        rw [hgathered]
        simp only
        split
        · exact hadvance
        · exact ⟨finished, held, told, haccounted⟩
  · exact h
  · exact h
  · exact hadvance

/-- **No action breaks the account**, whichever thread takes it. -/
theorem IsAccounted.step (h : s.IsAccounted size) (ho : o.CallbacksReturn) (a : Action δ α κ)
    (hdelay : ∀ elapsed, a = .write elapsed → s.queue.DelayReturns o.recorded s.world) :
    (s.step o.recorded a).IsAccounted size := by
  cases a with
  | append database items =>
    obtain ⟨finished, held, told, h⟩ := h
    simp only [SharedQueue.step, SharedQueue.append, WriteQueue.accept]
    by_cases hopen : s.queue.running = true
    · rw [if_pos hopen]
      exact ⟨finished, held, told, h.store hopen database items⟩
    · rw [if_neg hopen]
      exact ⟨finished, held, told, h⟩
  | beginFlush =>
    simp only [SharedQueue.step]
    split <;> exact h
  | endFlush =>
    simp only [SharedQueue.step]
    split <;> exact h
  | refuse =>
    obtain ⟨finished, held, told, haccounted⟩ := h
    simp only [SharedQueue.step]
    split
    · exact ⟨finished, held, told, haccounted.reflag false _ _ (by simp)⟩
    · exact ⟨finished, held, told, haccounted⟩
  | abandon =>
    obtain ⟨finished, held, told, haccounted⟩ := h
    simp only [SharedQueue.step]
    split
    · exact ⟨finished, held, told, haccounted⟩
    · exact ⟨finished, held, told, haccounted.reflag _ true _ id⟩
  | join =>
    obtain ⟨finished, held, told, haccounted⟩ := h
    simp only [SharedQueue.step]
    split
    · exact ⟨finished, held, told, haccounted.reflag _ _ false id⟩
    · exact ⟨finished, held, told, haccounted⟩
  | write elapsed => exact h.writerStep ho (hdelay elapsed rfl) elapsed

/-- **No point is lost, duplicated or put out of order.** In every state that a run leads to,
the chunks that are finished, the chunks that the writer holds and the queue hold what was
accepted, database by database and in order; each chunk has been dealt with in one way; and the
writer has ended only if the queue has been closed and emptied.

**Proof sketch.** Induction on the run. A queue that was just made holds nothing, and no action
breaks the account (`IsAccounted.step`). -/
theorem Reachable.isAccounted {settings : QueueSettings} {world : ω}
    (hsize : ChunkSize.ofValue settings.batchSize = .atMost size) (ho : o.CallbacksReturn)
    (hs : Reachable o.recorded settings ⟨world, []⟩ s) :
    ∃ finished held told,
      Accounted size s.accepted s.queue s.world.records finished held told := by
  induction hs with
  | new => exact ⟨[], [], [], hsize, .idle, rfl, nofun, ⟨.nil, nofun⟩, fun _ => rfl, nofun⟩
  | step a _ hdelay ih => exact IsAccounted.step ih ho a hdelay

/-- An outlet that answers attempts to write from a script, and then with success. -/
def scriptedOutlet : Outlet (List (Except Fault Unit)) δ α κ where
  write _ _ script := (script.headD (.ok ()), script.tail)
  confirm _ _ script := (.ok (), script)
  drop _ _ _ script := (.ok (), script)
  pause _ _ _ script := (false, script)

/-- A queue with two points, of which the writer has just written one chunk. -/
def writtenPair : SharedQueue (Recorded (List (Except Fault Unit)) (OutletRecord String Nat Nat))
    String Nat Nat :=
  (((new {} ⟨[.ok ()], []⟩).step scriptedOutlet.recorded
    (.append "weather" [(1, 10), (2, 20)])).step scriptedOutlet.recorded
    (.write true)).step scriptedOutlet.recorded (.write false)

/-- Two points that have just been written are accounted for. -/
theorem isAccounted_writtenPair :
    ∃ finished held told, Accounted 1000 writtenPair.accepted writtenPair.queue
      writtenPair.world.records finished held told := by
  have hrun : Reachable scriptedOutlet.recorded {} ⟨[.ok ()], []⟩ writtenPair := by
    refine .step _ (.step _ (.step _ .new nofun) ?_) ?_
    · intro _ _ retries chunk rest fault hphase
      cases hphase
    · intro _ _ retries chunk rest fault hphase hwrite
      cases hphase
      cases hwrite
  exact Reachable.isAccounted rfl ⟨fun _ _ _ => rfl, fun _ _ _ _ => rfl⟩ hrun

end SharedQueue

end SeriesClient
