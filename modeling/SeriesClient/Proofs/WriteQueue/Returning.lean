import SeriesClient.Proofs.WriteQueue.Failing
import SeriesClient.WriteQueue.Service

set_option relaxedAutoImplicit false
set_option autoImplicit false

/-!
# What the return of a flush means

A thread that flushes or closes a queue goes on only when everything that was accepted until
then has been dealt with: each chunk has been written and its points confirmed, or it has been
dropped. Points may be in the queue, in the hands of the writer, or in a chunk that is tried
again, and a thread looks at none of these but the first.

## Main definitions

* `SeriesClient.SharedQueue.Leads` — the runs from one state to another.
* `SeriesClient.SharedQueue.FlushReturns`, `SeriesClient.SharedQueue.CloseReturns` — a thread
  goes on.
* `SeriesClient.SharedQueue.Tended` — what the flags of the threads say about the writer.
* `SeriesClient.SharedQueue.Settled` — everything has been dealt with.

## Main results

* `SeriesClient.SharedQueue.Leads.returns` — what threads can rely on when they go on.
* `SeriesClient.SharedQueue.Leads.start_eq_new` — a queue that is started again is a new queue.
* `SeriesClient.QueueService.appendAll_of_closed` — a queue that was closed takes no points.

## Design

Flushes are not told apart: any of those that have been called may be the one that returns, and
so each of them has to be as good as the others.
-/

namespace SeriesClient

variable {ω δ α κ : Type}

/-! ## Steps of the writer -/

/-- The chunks that are finished are those that were handled, in order. -/
lemma handledOf_flatMap (finished : List (ChunkOutcome δ α κ)) :
    handledOf (finished.flatMap ChunkOutcome.records) =
      finished.map fun outcome => outcome.chunk.entry := by
  induction finished with
  | nil => rfl
  | cons outcome finished ih =>
    rw [List.flatMap_cons, List.map_cons, ← ih, handledOf, List.filterMap_append]
    cases outcome with
    | delivered c =>
      have hconfirmed : (c.items.map fun i => OutletRecord.confirmed (δ := δ) i.1 i.2).filterMap
          OutletRecord.handled? = [] := by
        simp [List.filterMap_map, OutletRecord.handled?, Function.comp_def]
      simp only [ChunkOutcome.records, List.filterMap_cons, OutletRecord.handled?, hconfirmed]
      rfl
    | dropped c fault => rfl

/-- A writer that holds nothing told the outlet of finished chunks alone. -/
lemma Holding.told_eq_nil {phase : WriterPhase δ α κ} {held : List (Chunk δ α κ)}
    {told : List (OutletRecord δ α κ)} (h : Holding phase held told)
    (hphase : phase = .idle ∨ phase = .finished) : told = [] := by
  rcases hphase with rfl | rfl <;> cases h <;> rfl

/-- The writer leaves the settings and the flag of the closing thread as they are. -/
lemma WriteQueue.step_keeps (o : Outlet ω δ α κ) (q : WriteQueue δ α κ) (w : ω) :
    (q.step o w).1.settings = q.settings ∧ (q.step o w).1.running = q.running := by
  have hdiscard : ∀ chunk fault rest w,
      (q.discard o chunk fault rest w).1.settings = q.settings ∧
        (q.discard o chunk fault rest w).1.running = q.running := by
    intro chunk fault rest w
    unfold discard
    split <;> exact ⟨rfl, rfl⟩
  unfold step
  split
  · split
    · exact ⟨rfl, rfl⟩
    · split <;> exact ⟨rfl, rfl⟩
  · unfold attempt
    split
    · exact ⟨rfl, rfl⟩
    · split
      · exact ⟨rfl, rfl⟩
      · exact hdiscard _ _ _ _
      · exact ⟨rfl, rfl⟩
  · split
    · exact hdiscard _ _ _ _
    · exact ⟨rfl, rfl⟩
  · exact ⟨rfl, rfl⟩
  · split <;> exact ⟨rfl, rfl⟩
  · exact ⟨rfl, rfl⟩
  · exact ⟨rfl, rfl⟩

namespace SharedQueue

/-! ## Runs between two states -/

section Runs

variable [BEq δ] {o : Outlet ω δ α κ} {s₀ s₁ s : SharedQueue ω δ α κ}
  {before later accepted : List (δ × List α)}

/-- The runs from a state, with the points that are accepted on the way, where the delays that come
up can be computed. Points come with any cookies; points that are refused are no action. -/
inductive Leads (o : Outlet ω δ α κ) (s₀ : SharedQueue ω δ α κ) :
    List (δ × List α) → SharedQueue ω δ α κ → Prop where
  /-- The state itself. -/
  | start : Leads o s₀ [] s₀
  /-- A queue that accepts points. -/
  | offer {accepted : List (δ × List α)} {s : SharedQueue ω δ α κ} {queue : WriteQueue δ α κ}
    (h : Leads o s₀ accepted s) (database : δ) (points : List α) (cookies : List κ)
    (haccept : s.queue.accept database points cookies = .ok queue) :
    Leads o s₀ (accepted ++ [(database, points)]) { s with queue }
  /-- A queue after any other action. -/
  | step {accepted : List (δ × List α)} {s : SharedQueue ω δ α κ} (h : Leads o s₀ accepted s)
    (a : Action δ α κ) (ha : ∀ database items, a ≠ .append database items)
    (hdelay : ∀ elapsed, a = .write elapsed → s.queue.DelayReturns o s.world) :
    Leads o s₀ accepted (s.step o a)

/-- The writer takes a step. -/
lemma Leads.write (h : Leads o s₀ accepted s) (elapsed : Bool)
    (hdelay : s.queue.DelayReturns o s.world) : Leads o s₀ accepted (s.step o (.write elapsed)) :=
  h.step _ (by simp) fun _ _ => hdelay

/-- A run can be followed by another one. -/
lemma Leads.trans (hbefore : Leads o s₀ before s₁) (h : Leads o s₁ later s) :
    Leads o s₀ (before ++ later) s := by
  induction h with
  | start => simpa using hbefore
  | offer _ database points cookies haccept ih =>
    rw [← List.append_assoc]
    exact ih.offer database points cookies haccept
  | step _ a ha hdelay ih => exact ih.step a ha hdelay

/-- Runs whose delays can be computed are runs. -/
lemma Leads.runs {settings : QueueSettings} {world : ω}
    (h : Leads o (.new settings world) accepted s) : Runs o settings world accepted s := by
  induction h with
  | start => exact .new
  | offer _ database points cookies haccept ih => exact ih.offer database points cookies haccept
  | step _ a ha _ ih => exact ih.step a ha

omit [BEq δ] in
/-- The writer takes a step of the queue, or only what it is doing changes. -/
lemma queue_writerStep (o : Outlet ω δ α κ) (s : SharedQueue ω δ α κ) (elapsed : Bool) :
    (∃ phase, (s.writerStep o elapsed).queue = { s.queue with phase }) ∨
      (s.writerStep o elapsed).queue = (s.queue.step o s.world).1 := by
  unfold writerStep
  split
  · split
    · exact .inl ⟨_, rfl⟩
    · split
      · exact .inr rfl
      · split
        · exact .inl ⟨_, rfl⟩
        · split
          · exact .inr rfl
          · exact .inl ⟨_, rfl⟩
  · exact .inl ⟨_, rfl⟩
  · exact .inl ⟨_, rfl⟩
  · exact .inr rfl

/-- No action opens a queue that has been closed. -/
lemma running_step (hs : s.queue.running = false) (a : Action δ α κ) :
    (s.step o a).queue.running = false := by
  cases a with
  | append database items => simp [step, append, WriteQueue.accept, hs]
  | write elapsed =>
    simp only [step]
    obtain ⟨phase, hqueue⟩ | hqueue := queue_writerStep o s elapsed
    · rw [hqueue, hs]
    · rw [hqueue, (WriteQueue.step_keeps o _ _).2, hs]
  | beginFlush | endFlush | abandon | join =>
    simp only [step]
    split <;> exact hs
  | refuse =>
    simp only [step]
    split
    · rfl
    · exact hs

/-- **Nothing is accepted after a queue has been closed.** -/
lemma Leads.refused (h : Leads o s₀ later s) (hs₀ : s₀.queue.running = false) :
    later = [] ∧ s.queue.running = false := by
  induction h with
  | start => exact ⟨rfl, hs₀⟩
  | offer _ database points cookies haccept ih =>
    simp [WriteQueue.accept, ih.2] at haccept
  | step _ a _ _ ih => exact ⟨ih.1, running_step ih.2 a⟩

/-- No action changes the settings. -/
lemma settings_step (a : Action δ α κ) : (s.step o a).queue.settings = s.queue.settings := by
  cases a with
  | append database items =>
    simp only [step, append, WriteQueue.accept]
    by_cases hopen : s.queue.running = true
    · rw [if_pos hopen]
      rfl
    · rw [if_neg hopen]
  | write elapsed =>
    simp only [step]
    obtain ⟨phase, hqueue⟩ | hqueue := queue_writerStep o s elapsed
    · rw [hqueue]
    · rw [hqueue, (WriteQueue.step_keeps o _ _).1]
  | beginFlush | endFlush | refuse | abandon | join =>
    simp only [step]
    split <;> rfl

/-- A run goes on with the settings it started with. -/
lemma Leads.settings_eq (h : Leads o s₀ accepted s) : s.queue.settings = s₀.queue.settings := by
  induction h with
  | start => rfl
  | offer _ database points cookies haccept ih =>
    simp only [WriteQueue.accept] at haccept
    split at haccept
    · cases haccept
      exact ih
    · cases haccept
  | step _ a _ _ ih => rw [settings_step, ih]

end Runs

/-! ## What the flags say -/

section Flags

variable {o : Outlet ω δ α κ} {size : Nat}
  {s : SharedQueue (Recorded ω (OutletRecord δ α κ)) δ α κ}

/-- What the flags of the threads say about the writer. -/
structure Tended (size : Nat) (s : SharedQueue (Recorded ω (OutletRecord δ α κ)) δ α κ) :
    Prop where
  /-- The greatest number of points in a chunk. -/
  size_eq : ChunkSize.ofValue s.queue.settings.batchSize = .atMost size
  /-- The outlet was told of the chunks that are finished, then of the one in progress. -/
  told : ∃ finished : List (ChunkOutcome δ α κ), ∃ held told, Holding s.queue.phase held told ∧
    s.world.records = finished.flatMap ChunkOutcome.records ++ told
  /-- A writer that has let go of everything holds nothing. -/
  writing : s.writing = false → s.queue.phase = .idle ∨ s.queue.phase = .finished
  /-- Only a writer that has ended has been waited for. -/
  ended : s.queue.hasWriter = false → s.queue.phase = .finished

namespace Tended

/-- A writer that holds a chunk goes on with it. -/
lemma advance (h : s.Tended size) (ho : o.CallbacksReturn) (hidle : s.queue.phase ≠ .idle)
    (hend : s.queue.phase ≠ .finished) (hdelay : s.queue.DelayReturns o.recorded s.world) :
    (s.advance o.recorded).Tended size := by
  obtain ⟨finished, held, told, hholding, hrecords⟩ := h.told
  have hwriting : ¬ s.writing = false := fun hwriting => (h.writing hwriting).elim hidle hend
  have hwriter : ¬ s.queue.hasWriter = false := fun hwriter => hend (h.ended hwriter)
  obtain ⟨phase, stopping, world, more, hstep, hholding', -⟩ |
      ⟨outcome, rest, world, more, hstep, -, houtcome⟩ :=
    WriteQueue.step_of_holding ho hholding hidle hend hdelay
  · simp only [SharedQueue.advance, hstep]
    refine ⟨h.size_eq, ⟨finished, held, told ++ more, hholding', ?_⟩,
      fun hnot => absurd hnot hwriting, fun hnot => absurd hnot hwriter⟩
    rw [hrecords, List.append_assoc]
  · simp only [SharedQueue.advance, hstep]
    refine ⟨h.size_eq, ⟨finished ++ [outcome], rest, [], Holding.ofChunks rest, ?_⟩,
      fun hnot => absurd hnot hwriting, fun hnot => absurd hnot hwriter⟩
    rw [hrecords, List.flatMap_append, List.flatMap_singleton, houtcome, List.append_nil,
      List.append_assoc]

/-- A writer that takes what waits says so, and one that finds nothing waits or ends. -/
lemma writerStep_of_idle (h : s.Tended size) (hidle : s.queue.phase = .idle) (elapsed : Bool) :
    (s.writerStep o.recorded elapsed).Tended size := by
  obtain ⟨finished, held, told, hholding, hrecords⟩ := h.told
  have htold := hholding.told_eq_nil (.inl hidle)
  have hwriter : ¬ s.queue.hasWriter = false := fun hwriter => by
    have hfinished := h.ended hwriter
    rw [hidle] at hfinished
    cases hfinished
  obtain ⟨gathered, hgathered⟩ := exists_gathered h.size_eq
  simp only [writerStep, hidle, hgathered]
  split
  · exact ⟨h.size_eq, h.told, fun _ => .inl hidle, h.ended⟩
  · next hwriting =>
    split
    · next hempty =>
      by_cases hrunning : s.queue.running = true
      · have hblocked : s.queue.isBlocked = true := by
          simp [WriteQueue.isBlocked, hidle, hempty, hrunning]
        simp only [SharedQueue.advance, WriteQueue.step_of_blocked _ _ _ hblocked]
        exact h
      · have hstop : s.queue.step o.recorded s.world =
            ({ s.queue with phase := .finished }, s.world) := by
          simp [WriteQueue.step, hidle, hempty, hrunning]
        simp only [SharedQueue.advance, hstop]
        refine ⟨h.size_eq, ⟨finished, [], [], .finished, ?_⟩, fun _ => .inr rfl, fun _ => rfl⟩
        rw [hrecords, htold]
    · next hempty =>
      split
      · -- The writer takes what waits.
        have htake : s.queue.step o.recorded s.world = (s.queue.take, s.world) := by
          simp [WriteQueue.step, hidle, hempty]
        simp only [SharedQueue.advance, htake, WriteQueue.take, h.size_eq, chunksOf?]
        refine ⟨h.size_eq, ⟨finished, _, [], Holding.ofChunks _, ?_⟩, by simp,
          fun hnot => absurd hnot hwriter⟩
        rw [hrecords, htold]
      · exact h

/-- **The flags stay true** when the writer takes a step. -/
lemma writerStep (h : s.Tended size) (ho : o.CallbacksReturn)
    (hdelay : s.queue.DelayReturns o.recorded s.world) (elapsed : Bool) :
    (s.writerStep o.recorded elapsed).Tended size := by
  by_cases hidle : s.queue.phase = .idle
  · exact h.writerStep_of_idle hidle elapsed
  · by_cases hend : s.queue.phase = .finished
    · simp only [SharedQueue.writerStep, hend]
      exact ⟨h.size_eq, h.told, fun _ => .inr hend, h.ended⟩
    · have hadvance := h.advance ho hidle hend hdelay
      obtain ⟨finished, held, told, hholding, -⟩ := h.told
      unfold SharedQueue.writerStep
      split
      · next hphase => exact absurd hphase hidle
      · next hphase =>
        rw [hphase] at hholding
        cases hholding
      · next hphase => exact absurd hphase hend
      · exact hadvance

variable [BEq δ]

/-- **The flags stay true** whatever a thread does. -/
lemma step (h : s.Tended size) (ho : o.CallbacksReturn) (a : Action δ α κ)
    (hdelay : ∀ elapsed, a = .write elapsed → s.queue.DelayReturns o.recorded s.world) :
    (s.step o.recorded a).Tended size := by
  cases a with
  | append database items =>
    simp only [SharedQueue.step, SharedQueue.append, WriteQueue.accept]
    by_cases hopen : s.queue.running = true
    · rw [if_pos hopen]
      exact ⟨h.size_eq, h.told, h.writing, h.ended⟩
    · rw [if_neg hopen]
      exact h
  | beginFlush | endFlush | refuse | abandon =>
    simp only [SharedQueue.step]
    split <;> exact ⟨h.size_eq, h.told, h.writing, h.ended⟩
  | join =>
    simp only [SharedQueue.step]
    split
    · next hready =>
      -- The writer has ended, and it cannot have failed.
      refine ⟨h.size_eq, h.told, h.writing, fun _ => ?_⟩
      obtain ⟨finished, held, told, hholding, -⟩ := h.told
      simp only [Bool.and_eq_true, hasEnded] at hready
      split at hready
      · next hphase =>
        rw [hphase] at hholding
        cases hholding
      · next hphase => exact hphase
      · cases hready.2
    · exact h
  | write elapsed => exact h.writerStep ho (hdelay elapsed rfl) elapsed

end Tended

/-- **The flags are true after any run.** -/
lemma Leads.tended [BEq δ] {settings : QueueSettings} {world : ω}
    {accepted : List (δ × List α)} (hsize : ChunkSize.ofValue settings.batchSize = .atMost size)
    (ho : o.CallbacksReturn) (h : Leads o.recorded (.new settings ⟨world, []⟩) accepted s) :
    s.Tended size := by
  induction h with
  | start => exact ⟨hsize, ⟨[], [], [], .idle, rfl⟩, fun _ => .inl rfl, nofun⟩
  | offer _ database points cookies haccept ih =>
    simp only [WriteQueue.accept] at haccept
    split at haccept
    · cases haccept
      exact ⟨ih.size_eq, ih.told, ih.writing, ih.ended⟩
    · cases haccept
  | step _ a _ hdelay ih => exact ih.step ho a hdelay

end Flags

/-! ## Threads that go on -/

section Returns

variable [BEq δ] {o : Outlet ω δ α κ} {size : Nat} {accepted before : List (δ × List α)}
  {s₀ s : SharedQueue (Recorded ω (OutletRecord δ α κ)) δ α κ}

/-- A flush goes on: nobody writes any more, or it is the one that returns now. -/
def FlushReturns (o : Outlet ω δ α κ) (s : SharedQueue ω δ α κ) : Prop :=
  s.queue.hasWriter = false ∨ (s.step o .endFlush).flushing < s.flushing

/-- The closing thread goes on: the writer has been waited for. -/
def CloseReturns (o : Outlet ω δ α κ) (s : SharedQueue ω δ α κ) : Prop :=
  (s.step o .join).queue.hasWriter = false

/-- Everything that was accepted has been dealt with: the outlet was told of finished chunks alone,
each of which was either written, with all of its points confirmed, or dropped, and these hold
what was accepted, database by database and in order. -/
def Settled (accepted : List (δ × List α))
    (s : SharedQueue (Recorded ω (OutletRecord δ α κ)) δ α κ) : Prop :=
  ∃ finished : List (ChunkOutcome δ α κ),
    s.world.records = finished.flatMap ChunkOutcome.records ∧
      ∀ k, pointsFor k accepted =
        pointsFor k (finished.map fun outcome => outcome.chunk.entry)

/-- What threads can rely on, once a queue has accepted points. -/
structure Returns (o : Outlet ω δ α κ) (before : List (δ × List α))
    (s₀ : SharedQueue (Recorded ω (OutletRecord δ α κ)) δ α κ) : Prop where
  /-- When a flush goes on that was called now, everything has been dealt with that was accepted
  before its call, and what was accepted since. -/
  flush : ∀ later s, Leads o.recorded (s₀.step o.recorded .beginFlush) later s →
    FlushReturns o.recorded s → Settled (before ++ later) s
  /-- When the closing thread goes on, nothing waits any more, no points are accepted any more, and
  all that ever were have been dealt with. -/
  close : ∀ later s, Leads o.recorded s₀ later s → CloseReturns o.recorded s →
    s.queue.queued.isEmpty = true ∧ s.queue.running = false ∧ Settled (before ++ later) s
  /-- Once the closing thread lets no more points in, points are refused for ever, and a queue
  that refuses them stays as it is. -/
  refused : s₀.queue.running = false → ∀ later s, Leads o.recorded s₀ later s →
    later = [] ∧
      (∀ database points cookies,
        s.queue.accept database points cookies = .error (.closed "WriteQueue")) ∧
      ∀ database items, s.step o.recorded (.append database items) = s

/-- If the writer holds nothing and nothing waits, everything has been dealt with. -/
lemma Tended.settled (h : s.Tended size) {lost : List (δ × List α)}
    (hbalance : Balance accepted s.queue s.world.records lost)
    (hphase : s.queue.phase = .idle ∨ s.queue.phase = .finished)
    (hempty : s.queue.queued.isEmpty = true) : Settled accepted s := by
  obtain ⟨finished, held, told, hholding, hrecords⟩ := h.told
  rw [hholding.told_eq_nil hphase, List.append_nil] at hrecords
  have hheld : s.queue.phase.held = [] := by
    rcases hphase with hphase | hphase <;> rw [hphase] <;> rfl
  have hne : s.queue.phase ≠ .failed := by rcases hphase with hphase | hphase <;> simp [hphase]
  refine ⟨finished, hrecords, fun k => ?_⟩
  have hwaiting : s.queue.waitingFor k = [] := by
    have hnone : s.queue.queued.entries = [] := by
      simpa [OrderedMap.isEmpty] using hempty
    simp [WriteQueue.waitingFor, OrderedMap.find?, OrderedMap.lookup, hnone]
  rw [hbalance.settled h.size_eq hne hheld k, hwaiting, List.append_nil, hrecords,
    handledOf_flatMap]

variable [PartialEquivBEq δ]

/-- **What it means that a thread goes on.** In any run, with any number of threads that add
points and flush: when a flush returns, every point that was accepted before its call has been
written and confirmed, or dropped; when the closing thread returns, the queue is empty and
this holds of every point that was ever accepted; and points that are added after the queue has
been closed are refused and leave it as it was.

**Proof sketch.** A flush waits until nothing is queued and the writer has let go of everything;
by the flags it then holds nothing (`Tended.writing`), so that all points are handled
(`Balance.settled`) and the outlet was told of finished chunks alone. The closing thread waits
for a writer that has ended, which happens only once the queue has been emptied
(`Balance.ended`). -/
theorem Leads.returns {settings : QueueSettings} {world : ω}
    (hsize : ChunkSize.ofValue settings.batchSize = .atMost size) (ho : o.CallbacksReturn)
    (hbefore : Leads o.recorded (.new settings ⟨world, []⟩) before s₀) :
    Returns o before s₀ := by
  have hended : ∀ {accepted s}, Leads o.recorded (.new settings ⟨world, []⟩) accepted s →
      s.queue.phase = .finished →
        s.queue.queued.isEmpty = true ∧ s.queue.running = false ∧ Settled accepted s := by
    intro accepted s hs hphase
    obtain ⟨lost, hbalance⟩ := hs.runs.exists_balance
    obtain ⟨hempty, hrunning⟩ := hbalance.ended hphase
    exact ⟨hempty, hrunning, (hs.tended hsize ho).settled hbalance (.inr hphase) hempty⟩
  refine ⟨fun later s hlater hreturns => ?_, fun later s hlater hreturns => ?_,
    fun hclosed later s hlater => ?_⟩
  · have hs := (hbefore.step .beginFlush (by simp) (by simp)).trans hlater
    rcases hreturns with hwriter | hreturns
    · exact (hended hs ((hs.tended hsize ho).ended hwriter)).2.2
    · obtain ⟨lost, hbalance⟩ := hs.runs.exists_balance
      simp only [SharedQueue.step] at hreturns
      split at hreturns
      · next hready =>
        simp only [Bool.and_eq_true, Bool.not_eq_true'] at hready
        obtain ⟨⟨-, hempty⟩, hwriting⟩ := hready
        have htended := hs.tended hsize ho
        exact htended.settled hbalance (htended.writing hwriting) hempty
      · exact absurd hreturns (Nat.lt_irrefl _)
  · have hs := hbefore.trans hlater
    have hjoined := ((hs.step .join (by simp) (by simp)).tended hsize ho).ended hreturns
    have hphase : s.queue.phase = .finished := by
      simp only [SharedQueue.step] at hjoined
      split at hjoined <;> exact hjoined
    exact hended hs hphase
  · obtain ⟨hnone, hrunning⟩ := hlater.refused hclosed
    refine ⟨hnone, fun database points cookies => ?_, fun database items => ?_⟩
    · simp [WriteQueue.accept, hrunning]
    · simp [SharedQueue.step, append, WriteQueue.accept, hrunning]

/-- **A queue that is started again after it was closed is a new queue** with the same settings:
nothing waits, and nothing is left of the flags of the closing thread.

**Proof sketch.** Only a writer that has ended has been waited for (`Tended.ended`), and it ends only
once the queue has been emptied (`Balance.ended`). -/
theorem Leads.start_eq_new {settings : QueueSettings} {world : ω}
    (hsize : ChunkSize.ofValue settings.batchSize = .atMost size) (ho : o.CallbacksReturn)
    (hs : Leads o.recorded (.new settings ⟨world, []⟩) accepted s)
    (hclosed : s.queue.hasWriter = false) :
    s.queue.start = .ok (.new settings) := by
  have hsettings : s.queue.settings = settings := hs.settings_eq
  have hphase := (hs.tended hsize ho).ended hclosed
  obtain ⟨lost, hbalance⟩ := hs.runs.exists_balance
  have hempty : s.queue.queued = .empty := by
    obtain ⟨hnone, -⟩ := hbalance.ended hphase
    exact congrArg OrderedMap.mk (List.isEmpty_iff.mp hnone)
  simp only [WriteQueue.start, WriteQueue.new, hclosed, hempty, hsettings, Bool.false_eq_true,
    if_false]

end Returns

/-- Two points that wait, and an outlet that will take them. -/
def waitingPair : SharedQueue (Recorded (List (Except Fault Unit)) (OutletRecord String Nat Nat))
    String Nat Nat :=
  { new {} ⟨[.ok ()], []⟩ with
    queue := (WriteQueue.new {}).store "weather" [1, 2] [10, 20] }

/-- The state in which a flush of two points returns. -/
def flushedPair : SharedQueue (Recorded (List (Except Fault Unit)) (OutletRecord String Nat Nat))
    String Nat Nat :=
  [Action.write true, .write true, .write true, .write true, .write true, .write true].foldl
    (step scriptedOutlet.recorded) (waitingPair.step scriptedOutlet.recorded .beginFlush)

/-- A flush of two points goes on once they have been written and confirmed. -/
theorem returns_waitingPair :
    Leads scriptedOutlet.recorded (.new {} ⟨[.ok ()], []⟩) [("weather", [1, 2])] waitingPair ∧
      Returns scriptedOutlet [("weather", [1, 2])] waitingPair ∧
      Leads scriptedOutlet.recorded (waitingPair.step scriptedOutlet.recorded .beginFlush) []
        flushedPair ∧
      FlushReturns scriptedOutlet.recorded flushedPair ∧
      Settled [("weather", [1, 2])] flushedPair := by
  have hbefore : Leads scriptedOutlet.recorded (.new {} ⟨[.ok ()], []⟩) [("weather", [1, 2])]
      waitingPair := Leads.start.offer "weather" [1, 2] [10, 20] rfl
  have hreturns : Returns scriptedOutlet [("weather", [1, 2])] waitingPair :=
    Leads.returns rfl ⟨fun _ _ _ => rfl, fun _ _ _ _ => rfl⟩ hbefore
  have hdelay : ∀ (q : WriteQueue String Nat Nat)
      (w : Recorded (List (Except Fault Unit)) (OutletRecord String Nat Nat)),
      w.world.headD (.ok ()) = .ok () → q.DelayReturns scriptedOutlet.recorded w := by
    intro q w hok retries chunk rest fault _ hwrite
    simp only [Outlet.recorded, scriptedOutlet, hok] at hwrite
    cases hwrite
  have hlater : Leads scriptedOutlet.recorded
      (waitingPair.step scriptedOutlet.recorded .beginFlush) [] flushedPair :=
    (((((Leads.start.write true (hdelay _ _ rfl)).write true (hdelay _ _ rfl)).write true
      (hdelay _ _ rfl)).write true (hdelay _ _ rfl)).write true (hdelay _ _ rfl)).write true
      (hdelay _ _ rfl)
  have hflush : FlushReturns scriptedOutlet.recorded flushedPair := .inr (by decide)
  exact ⟨hbefore, hreturns, hlater, hflush, hreturns.flush [] flushedPair hlater hflush⟩

end SharedQueue

/-! ## Queues over a client -/

/-- **A queue over a client that was closed takes no points** and stays as it was: points are
refused, unless even their number cannot be told. -/
theorem QueueService.appendAll_of_closed (s : QueueService) (points : Entries)
    (database cookies : Value) (h : s.queue.running = false) :
    s.appendAll points database cookies = (.error (.closed "WriteQueue"), s) ∨
      ∃ fault, cookies.isNull = true ∧ points.count = .error fault ∧
        s.appendAll points database cookies = (.error fault, s) := by
  by_cases hnull : cookies.isNull = true
  · rcases hcount : points.count with fault | n
    · refine .inr ⟨fault, hnull, rfl, ?_⟩
      simp only [appendAll, if_pos hnull, hcount, Except.map]
    · refine .inl ?_
      simp only [appendAll, if_pos hnull, hcount, Except.map, h]
      rfl
  · refine .inl ?_
    simp only [appendAll, if_neg hnull, h]
    rfl

end SeriesClient
