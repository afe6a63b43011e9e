import SeriesClient.Proofs.WriteQueue.Retrying
import SeriesClient.Proofs.WriteQueue.Returning

set_option relaxedAutoImplicit false
set_option autoImplicit false

/-!
# How a writer comes to its end

Once the closing thread has retries abandoned, the writer tries each chunk at most once more: a
chunk that fails is dropped, and so is a chunk that it was waiting to try again. So the writer
returns, whatever the server answers.

## Main definitions

* `SeriesClient.WriteQueue.remaining` — the chunks that are still to be tried.
* `SeriesClient.SharedQueue.work` — how many steps the writer has left at most.
* `SeriesClient.SharedQueue.IsClosing` — a queue whose writer only has to come to its end.
* `SeriesClient.SharedQueue.Advances` — what an action does to such a queue.
* `SeriesClient.SharedQueue.Abandons` — how the writer comes to its end.

## Main results

* `SeriesClient.SharedQueue.IsClosing.step` — no action takes the writer further from its end.
* `SeriesClient.SharedQueue.Leads.abandons` — how the writer comes to its end after any run.

## Design

The flag that has retries abandoned can be set between any two steps of the writer. A write does not
look at the flag, so that setting it during a write is setting it before the attempt. The writer
looks at it once more when it begins to wait, so that setting it just before this is setting it
during the pause.

The server is any outlet whose callbacks return: what writes come to may depend on everything that
has been called so far.
-/

namespace SeriesClient

variable {ω δ α κ : Type}

/-! ## What is left to do -/

/-- The chunks in hand that a writer has yet to try, if it does not try any of them again. -/
def WriterPhase.untried : WriterPhase δ α κ → List (Chunk δ α κ)
  | attempting _ chunk rest => chunk :: rest
  | pausing _ _ _ rest => rest
  | confirming _ rest => rest
  | idle => []
  | failed => []
  | finished => []

/-- Before some chunks, the writer has yet to try all of them. -/
@[simp]
lemma WriterPhase.untried_ofChunks (chunks : List (Chunk δ α κ)) :
    (ofChunks chunks).untried = chunks := by
  cases chunks <;> rfl

/-- How many steps some chunks take, if none of them is tried again: one write and one confirmation
of each point, after which the writer goes on with the next chunk. -/
def loadOf : List (Chunk δ α κ) → Nat
  | [] => 0
  | chunk :: rest => chunk.items.length + 2 + loadOf rest

/-- How many steps the chunks in hand take, if none of them is tried again, and the end of the
writer. -/
def WriterPhase.load : WriterPhase δ α κ → Nat
  | attempting _ chunk rest => loadOf (chunk :: rest) + 1
  | pausing _ _ _ rest => loadOf rest + 2
  | confirming points rest => points.length + loadOf rest + 2
  | idle => 1
  | failed => 0
  | finished => 0

/-- Before some chunks, all of them are left. -/
@[simp]
lemma WriterPhase.load_ofChunks (chunks : List (Chunk δ α κ)) :
    (ofChunks chunks).load = loadOf chunks + 1 := by
  cases chunks <;> rfl

namespace WriteQueue

/-- The chunks that the writer would take now. -/
def queuedChunks (q : WriteQueue δ α κ) : List (Chunk δ α κ) :=
  (chunksOf? (.ofValue q.settings.batchSize) q.queued.entries).getD []

/-- The chunks that are still to be tried, if none of them is tried again: those in hand, and then
those that wait. -/
def remaining (q : WriteQueue δ α κ) : List (Chunk δ α κ) := q.phase.untried ++ q.queuedChunks

/-- Nothing waits in an empty queue. -/
lemma queuedChunks_of_isEmpty {q : WriteQueue δ α κ} (h : q.queued.isEmpty = true) :
    q.queuedChunks = [] := by
  have hnone : q.queued.entries = [] := by simpa [OrderedMap.isEmpty] using h
  rw [queuedChunks, hnone]
  cases ChunkSize.ofValue q.settings.batchSize <;> rfl

/-- What the writer takes is what waited. -/
lemma phase_take {q : WriteQueue δ α κ} {size : Nat}
    (hsize : ChunkSize.ofValue q.settings.batchSize = .atMost size) :
    q.take.phase = .ofChunks q.queuedChunks := by
  simp only [take, queuedChunks, hsize, chunksOf?, Option.getD_some]

variable {o : Outlet ω δ α κ} {q : WriteQueue δ α κ}

/-- **A writer that holds a chunk gets on with it**, once retries have been abandoned: it writes a
chunk that is no longer to be tried after this, or writes nothing.

**Proof sketch.** By the phase of the writer. An attempt that fails ends in a drop, since retries
have been abandoned, and so does a pause. -/
lemma step_of_stopping (ho : o.CallbacksReturn) (hstopping : q.stopping = true)
    (hretries : ∀ retries, ∃ exhausted, q.settings.isExhausted retries = .ok exhausted)
    (w : Recorded ω (OutletCall δ α κ)) (hidle : q.phase ≠ .idle) (hfailed : q.phase ≠ .failed)
    (hend : q.phase ≠ .finished) :
    ∃ phase world calls tried,
      q.step o.traced w = ({ q with phase }, ⟨world, w.records ++ calls⟩) ∧
      writesOf calls = tried.map Chunk.entry ∧ tried ++ phase.untried = q.phase.untried ∧
      phase.load < q.phase.load ∧ phase ≠ .failed ∧ phase ≠ .finished := by
  have hdiscard : ∀ c fault rest w, ∃ world, q.discard o.traced c fault rest w =
      ({ q with phase := .ofChunks rest },
        ⟨world, w.records ++ [.drop c.database c.points fault]⟩) := by
    intro c fault rest w
    obtain ⟨phase, world, hdiscard, rfl | ⟨-, hno⟩⟩ := exists_discard_traced o q c fault rest w
    · exact ⟨world, hdiscard⟩
    · exact absurd ho hno
  cases hphase : q.phase with
  | idle => exact absurd hphase hidle
  | failed => exact absurd hphase hfailed
  | finished => exact absurd hphase hend
  | attempting retries c rest =>
    rcases hwrite : o.write c.database c.points w.world with ⟨fault | _, world⟩
    · obtain ⟨exhausted, hexhausted⟩ := hretries retries
      have hjudge : q.judge retries fault = .ok .drop := by
        simp only [judge, hexhausted, hstopping, Bool.or_true, bind, Except.bind, if_true]
        rfl
      obtain ⟨world', hdrop⟩ := hdiscard c fault rest
        ⟨world, w.records ++ [.write c.database c.points (.error fault)]⟩
      refine ⟨.ofChunks rest, world', [.write c.database c.points (.error fault),
        .drop c.database c.points fault], [c], ?_, rfl, ?_, ?_, WriterPhase.ofChunks_ne_failed rest,
        WriterPhase.ofChunks_ne_finished rest⟩
      · simp only [step, hphase, attempt, Outlet.traced, hwrite, hjudge]
        simpa [Outlet.traced] using hdrop
      · rw [WriterPhase.untried_ofChunks]
        rfl
      · rw [WriterPhase.load_ofChunks]
        simp only [WriterPhase.load, loadOf]
        omega
    · refine ⟨.confirming c.items rest, world, [.write c.database c.points (.ok ())], [c], ?_, rfl,
        rfl, ?_, by simp, by simp⟩
      · simp only [step, hphase, attempt, Outlet.traced, hwrite]
        rfl
      · simp only [WriterPhase.load, loadOf]
        omega
  | pausing retries c fault rest =>
    obtain ⟨world, hdrop⟩ := hdiscard c fault rest w
    refine ⟨.ofChunks rest, world, [.drop c.database c.points fault], [], ?_, rfl, ?_, ?_,
      WriterPhase.ofChunks_ne_failed rest, WriterPhase.ofChunks_ne_finished rest⟩
    · simp only [step, hphase, hstopping, if_true, hdrop]
    · rw [WriterPhase.untried_ofChunks]
      rfl
    · rw [WriterPhase.load_ofChunks]
      exact Nat.lt_succ_self _
  | confirming left rest =>
    cases left with
    | nil =>
      refine ⟨.ofChunks rest, w.world, [], [], ?_, rfl, ?_, ?_, WriterPhase.ofChunks_ne_failed rest,
        WriterPhase.ofChunks_ne_finished rest⟩
      · simp only [step, hphase, List.append_nil]
      · rw [WriterPhase.untried_ofChunks]
        rfl
      · rw [WriterPhase.load_ofChunks]
        simp only [WriterPhase.load, List.length_nil]
        omega
    | cons i left =>
      have hconfirm := ho.confirm i.1 i.2 w.world
      rcases hresult : o.confirm i.1 i.2 w.world with ⟨result, world⟩
      obtain rfl : result = .ok () := by rw [← hconfirm, hresult]
      refine ⟨.confirming left rest, world, [.confirm i.1 i.2], [], ?_, rfl, rfl, ?_, by simp,
        by simp⟩
      · simp only [step, hphase, Outlet.traced, hresult]
      · simp only [WriterPhase.load, List.length_cons]
        omega

/-- The writer leaves the flag that has retries abandoned alone, unless a pause is interrupted. -/
lemma stopping_step {o : Outlet ω δ α κ}
    (hpause : ∀ attempt fault delay w, (o.pause attempt fault delay w).1 = false)
    (q : WriteQueue δ α κ) (w : ω) : (q.step o w).1.stopping = q.stopping := by
  have hdiscard : ∀ c fault rest w, (q.discard o c fault rest w).1.stopping = q.stopping := by
    intro c fault rest w
    unfold discard
    split <;> rfl
  unfold step
  split
  · split
    · rfl
    · split <;> rfl
  · unfold attempt
    split
    · rfl
    · split
      · rfl
      · exact hdiscard _ _ _ _
      · simp only [hpause, Bool.or_false]
  · split
    · exact hdiscard _ _ _ _
    · rfl
  · rfl
  · split <;> rfl
  · rfl
  · rfl

end WriteQueue

namespace SharedQueue

/-! ## Runs up to the closing of a queue -/

section Before

variable [BEq δ] {o : Outlet ω δ α κ} {s₀ s : SharedQueue ω δ α κ}
  {accepted : List (δ × List α)}

/-- A run can be taken with a record of what the outlet was told. -/
lemma Leads.exists_recorded (h : Leads o s₀ accepted s)
    (records : List (OutletRecord δ α κ)) :
    ∃ s', Leads o.recorded
        ⟨s₀.queue, ⟨s₀.world, records⟩, s₀.writing, s₀.flushRequested, s₀.flushing, s₀.accepted⟩
        accepted s' ∧ s'.erase = s := by
  induction h with
  | start => exact ⟨_, .start, rfl⟩
  | offer _ database points cookies haccept ih =>
    obtain ⟨s', hs', rfl⟩ := ih
    exact ⟨_, hs'.offer database points cookies haccept, rfl⟩
  | step _ a ha hdelay ih =>
    obtain ⟨s', hs', rfl⟩ := ih
    refine ⟨_, hs'.step a ha fun elapsed helapsed retries chunk rest fault hphase hwrite => ?_,
      erase_step o s' a⟩
    refine hdelay elapsed helapsed retries chunk rest fault hphase ?_
    simp only [Outlet.recorded] at hwrite
    split at hwrite
    · cases hwrite
    · next herror =>
      have hworld : s'.erase.world = s'.world.world := rfl
      rw [hworld, herror]
      exact hwrite

/-- The flag that has retries abandoned is set by nobody but the closing thread, and only when no
more points are accepted, if no pause is interrupted in any other way. -/
lemma Leads.running_of_stopping {settings : QueueSettings} {world : ω}
    (hpause : ∀ attempt fault delay w, (o.pause attempt fault delay w).1 = false)
    (h : Leads o (.new settings world) accepted s) (hstopping : s.queue.stopping = true) :
    s.queue.running = false := by
  induction h with
  | start => cases hstopping
  | offer _ database points cookies haccept ih =>
    simp only [WriteQueue.accept] at haccept
    split at haccept
    · next hopen =>
      cases haccept
      rw [ih hstopping] at hopen
      cases hopen
    · cases haccept
  | @step accepted s _ a ha _ ih =>
    cases a with
    | append database items => exact absurd rfl (ha database items)
    | beginFlush | endFlush | join | refuse =>
      simp only [SharedQueue.step] at hstopping ⊢
      split at hstopping <;> split <;> first | exact ih hstopping | rfl
    | abandon =>
      simp only [SharedQueue.step]
      split
      · next hopen =>
        simp only [SharedQueue.step, hopen, if_true] at hstopping
        exact ih hstopping
      · next hclosed => exact Bool.eq_false_iff.2 hclosed
    | write elapsed =>
      simp only [SharedQueue.step] at hstopping ⊢
      obtain ⟨phase, hqueue⟩ | hqueue := queue_writerStep o s elapsed
      · rw [hqueue] at hstopping ⊢
        exact ih hstopping
      · rw [hqueue, WriteQueue.stopping_step hpause] at hstopping
        rw [hqueue, (WriteQueue.step_keeps o _ _).2]
        exact ih hstopping

end Before

/-! ## Runs from there on -/

/-- How many steps the writer has left at most, once retries have been abandoned: those for the
chunks in hand and for the chunks that wait, and one each for taking the latter, for letting go of
them, and for noticing that nothing is left. -/
def work (s : SharedQueue ω δ α κ) : Nat :=
  s.queue.phase.load + loadOf s.queue.queuedChunks + (if s.queue.queued.isEmpty then 0 else 2) +
    if s.writing then 1 else 0

/-- A queue whose writer only has to come to its end. -/
structure IsClosing (s : SharedQueue ω δ α κ) : Prop where
  /-- There is a greatest number of points in a chunk. -/
  sized : ∃ size, ChunkSize.ofValue s.queue.settings.batchSize = .atMost size
  /-- It can be told whether a chunk has been tried again as often as allowed. -/
  retries : ∀ retries, ∃ exhausted, s.queue.settings.isExhausted retries = .ok exhausted
  /-- No more points are accepted. -/
  closed : s.queue.running = false
  /-- Retries have been abandoned. -/
  stopping : s.queue.stopping = true
  /-- The writer has not failed. -/
  ne_failed : s.queue.phase ≠ .failed
  /-- The writer has not ended before the queue was emptied. -/
  emptied : s.queue.phase = .finished → s.queue.queued.isEmpty = true

/-- What an action does to a queue whose writer only has to come to its end. -/
structure Advances (steps : Nat)
    (s s' : SharedQueue (Recorded ω (OutletCall δ α κ)) δ α κ) : Prop where
  /-- The writer still has to come to its end. -/
  closing : s'.IsClosing
  /-- Each chunk that is no longer to be tried was written once, in order. -/
  tries : ∃ tried, writesOf s'.world.records =
    writesOf s.world.records ++ tried.map Chunk.entry ∧
      tried ++ s'.queue.remaining = s.queue.remaining
  /-- Each step of the writer takes it closer to its end, until it has ended. -/
  work_le : s'.work ≤ s.work - steps

/-- How many steps of the writer an action is. -/
def Action.steps : Action δ α κ → Nat
  | .write _ => 1
  | _ => 0

/-- How many steps of the writer some actions are. -/
def stepsOf : List (Action δ α κ) → Nat
  | [] => 0
  | a :: actions => a.steps + stepsOf actions

section After

variable {o : Outlet ω δ α κ} {s s' s'' : SharedQueue (Recorded ω (OutletCall δ α κ)) δ α κ}

/-- A queue that stays as it is but for flags of other threads has its writer no closer to its end,
and no further from it. -/
lemma IsClosing.advances (h : s.IsClosing) (hasWriter flushRequested : Bool) (flushing : Nat) :
    Advances 0 s { s with queue := { s.queue with hasWriter }, flushRequested, flushing } :=
  ⟨⟨h.sized, h.retries, h.closed, h.stopping, h.ne_failed, h.emptied⟩,
    ⟨[], (List.append_nil _).symm, rfl⟩, Nat.le_refl _⟩

/-- One action after another. -/
lemma Advances.trans {m n : Nat} (h : Advances m s s') (h' : Advances n s' s'') :
    Advances (m + n) s s'' := by
  obtain ⟨tried, hwrites, hremaining⟩ := h.tries
  obtain ⟨tried', hwrites', hremaining'⟩ := h'.tries
  refine ⟨h'.closing, ⟨tried ++ tried', ?_, ?_⟩, Nat.le_trans h'.work_le ?_⟩
  · rw [hwrites', hwrites, List.map_append, List.append_assoc]
  · rw [← hremaining, ← hremaining', List.append_assoc]
  · rw [← Nat.sub_sub]
    exact Nat.sub_le_sub_right h.work_le n

/-- The writer has ended if there is nothing left to do. -/
lemma IsClosing.of_work_eq_zero (h : s.IsClosing) (hwork : s.work = 0) :
    s.queue.phase = .finished ∧ s.writing = false := by
  simp only [work, Nat.add_eq_zero_iff] at hwork
  obtain ⟨⟨⟨hload, -⟩, -⟩, hwriting⟩ := hwork
  refine ⟨?_, by simpa using hwriting⟩
  cases hphase : s.queue.phase with
  | finished => rfl
  | failed => exact absurd hphase h.ne_failed
  | _ => simp [WriterPhase.load, hphase] at hload

/-- A writer lets go of what it took, and has nothing left to do once it has ended. -/
lemma IsClosing.letGo (h : s.IsClosing) (hdone : s.writing = true ∨ s.queue.phase = .finished) :
    Advances 1 s { s with writing := false } := by
  refine ⟨⟨h.sized, h.retries, h.closed, h.stopping, h.ne_failed, h.emptied⟩,
    ⟨[], (List.append_nil _).symm, rfl⟩, ?_⟩
  rcases hdone with hwriting | hend
  · simp only [work, hwriting, Bool.false_eq_true, if_true, if_false]
    omega
  · have hempty := h.emptied hend
    have hnone := WriteQueue.queuedChunks_of_isEmpty hempty
    simp only [work, hend, hempty, hnone, WriterPhase.load, loadOf, Bool.false_eq_true, if_true,
      if_false]
    omega

/-- A writer without a chunk in hand lets go of what it took, takes what waits, or ends. -/
lemma IsClosing.writerStep_of_idle (h : s.IsClosing) (hidle : s.queue.phase = .idle)
    (elapsed : Bool) : Advances 1 s (s.writerStep o.traced elapsed) := by
  obtain ⟨size, hsize⟩ := h.sized
  have hload : s.queue.phase.load = 1 := by rw [hidle]; rfl
  obtain ⟨hwriting, hstep⟩ | ⟨hwriting, hempty, hstep⟩ | ⟨hwriting, hempty, hstep⟩ |
      ⟨hrunning, -⟩ := writerStep_cases_of_idle (o := o.traced) hsize hidle elapsed
  · rw [hstep]
    exact h.letGo (.inl hwriting)
  · rw [hstep]
    refine ⟨⟨h.sized, h.retries, h.closed, h.stopping, by simp, fun _ => hempty⟩,
      ⟨[], (List.append_nil _).symm, ?_⟩, ?_⟩
    · simp only [WriteQueue.remaining, hidle]
      rfl
    · have hqueued : ({ s.queue with phase := .finished } : WriteQueue δ α κ).queuedChunks =
          s.queue.queuedChunks := rfl
      have hend : (.finished : WriterPhase δ α κ).load = 0 := rfl
      simp only [work, hqueued, hload, hend]
      omega
  · have hphase := WriteQueue.phase_take hsize
    have hnone : s.queue.take.queuedChunks = [] := WriteQueue.queuedChunks_of_isEmpty rfl
    rw [hstep]
    refine ⟨⟨h.sized, h.retries, h.closed, h.stopping, ?_, fun _ => rfl⟩,
      ⟨[], (List.append_nil _).symm, ?_⟩, ?_⟩
    · exact hphase ▸ WriterPhase.ofChunks_ne_failed _
    · rw [WriteQueue.remaining, WriteQueue.remaining, hphase, WriterPhase.untried_ofChunks, hnone,
        hidle, List.append_nil]
      rfl
    · have hempty' : s.queue.take.queued.isEmpty = true := rfl
      simp only [work, hphase, hnone, hempty', hload, hempty, hwriting, WriterPhase.load_ofChunks,
        loadOf, Bool.false_eq_true, if_true, if_false]
      omega
  · rw [h.closed] at hrunning
    cases hrunning

/-- **The writer gets closer to its end with each step** until it has ended. -/
lemma IsClosing.writerStep (h : s.IsClosing) (ho : o.CallbacksReturn) (elapsed : Bool) :
    Advances 1 s (s.writerStep o.traced elapsed) := by
  by_cases hidle : s.queue.phase = .idle
  · exact h.writerStep_of_idle hidle elapsed
  by_cases hend : s.queue.phase = .finished
  · have hstep : s.writerStep o.traced elapsed = { s with writing := false } := by
      simp only [SharedQueue.writerStep, hend]
    rw [hstep]
    exact h.letGo (.inr hend)
  have hstep : s.writerStep o.traced elapsed = s.advance o.traced := by
    unfold SharedQueue.writerStep
    split
    · next hphase => exact absurd hphase hidle
    · next hphase => exact absurd hphase h.ne_failed
    · next hphase => exact absurd hphase hend
    · rfl
  obtain ⟨phase, world, calls, tried, hadvance, hwrites, huntried, hload, hfailed, hfinished⟩ :=
    WriteQueue.step_of_stopping ho h.stopping h.retries s.world hidle h.ne_failed hend
  have hqueued : ({ s.queue with phase } : WriteQueue δ α κ).queuedChunks =
      s.queue.queuedChunks := rfl
  rw [hstep]
  simp only [advance, hadvance]
  refine ⟨⟨h.sized, h.retries, h.closed, h.stopping, hfailed, fun hend => absurd hend hfinished⟩,
    ⟨tried, ?_, ?_⟩, ?_⟩
  · rw [writesOf_append, hwrites]
  · rw [WriteQueue.remaining, WriteQueue.remaining, hqueued, ← huntried, List.append_assoc]
  · simp only [work, hqueued]
    omega

variable [BEq δ]

/-- **No action takes the writer further from its end**, and each step of the writer takes it
closer. -/
theorem IsClosing.step (h : s.IsClosing) (ho : o.CallbacksReturn) (a : Action δ α κ) :
    Advances a.steps s (s.step o.traced a) := by
  cases a with
  | append database items =>
    have hrefused : s.step o.traced (.append database items) = s := by
      simp [SharedQueue.step, append, WriteQueue.accept, h.closed]
    rw [hrefused]
    exact h.advances _ _ _
  | write elapsed => exact h.writerStep ho elapsed
  | refuse =>
    have hsame : s.step o.traced .refuse = s := by
      simp only [SharedQueue.step, WriteQueue.refuse, ← h.closed]
      split <;> rfl
    rw [hsame]
    exact h.advances _ _ _
  | abandon =>
    have hsame : s.step o.traced .abandon = s := by
      simp only [SharedQueue.step, WriteQueue.abandon, ← h.stopping]
      split <;> rfl
    rw [hsame]
    exact h.advances _ _ _
  | beginFlush | endFlush | join =>
    simp only [SharedQueue.step]
    split <;> exact h.advances _ _ _

/-- **Whatever the threads do next**, the writer gets closer to its end with each step that it
takes. -/
lemma IsClosing.foldl (h : s.IsClosing) (ho : o.CallbacksReturn)
    (actions : List (Action δ α κ)) :
    Advances (stepsOf actions) s (actions.foldl (SharedQueue.step o.traced) s) := by
  induction actions generalizing s with
  | nil => exact h.advances _ _ _
  | cons a actions ih =>
    have hstep := h.step ho a
    exact hstep.trans (ih hstep.closing)

/-- How the writer comes to its end, once the closing thread has retries abandoned. -/
structure Abandons (o : Outlet ω δ α κ)
    (s : SharedQueue (Recorded ω (OutletCall δ α κ)) δ α κ) : Prop where
  /-- Whatever the threads do next, only the chunks that are still to be tried are written, in order
  and each of them at most once. -/
  tries : ∀ actions : List (Action δ α κ), ∃ tried left,
    writesOf (actions.foldl (step o.traced) s).world.records =
      writesOf s.world.records ++ tried.map Chunk.entry ∧ tried ++ left = s.queue.remaining
  /-- There are no more writes than chunks. -/
  atMost : ∀ actions : List (Action δ α κ),
    (writesOf (actions.foldl (step o.traced) s).world.records).length ≤
      (writesOf s.world.records).length + s.queue.remaining.length
  /-- A chunk that the writer was waiting to try again is dropped next, without another attempt. -/
  interrupted : ∀ retries c fault rest, s.queue.phase = .pausing retries c fault rest →
    ∀ elapsed, ∃ world, s.step o.traced (.write elapsed) = { s with
      queue := { s.queue with phase := .ofChunks rest }
      world := ⟨world, s.world.records ++ [.drop c.database c.points fault]⟩ }
  /-- After so many steps of the writer, it has returned, and each of the chunks has been tried. -/
  returns : ∀ actions : List (Action δ α κ), s.work ≤ stepsOf actions →
    (actions.foldl (step o.traced) s).queue.phase = .finished ∧
      (actions.foldl (step o.traced) s).hasEnded = true ∧
      writesOf (actions.foldl (step o.traced) s).world.records =
        writesOf s.world.records ++ s.queue.remaining.map Chunk.entry

omit [BEq δ] in
/-- A record of every call does not keep callbacks from returning. -/
lemma callbacksReturn_traced (ho : o.CallbacksReturn) : o.traced.CallbacksReturn :=
  ⟨fun point cookie w => ho.confirm point cookie w.world,
    fun database points fault w => ho.drop database points fault w.world⟩

/-- The writer of a queue that has been closed only has to come to its end. -/
lemma Leads.isClosing [PartialEquivBEq δ] {settings : QueueSettings} {world : ω} {size : Nat}
    {accepted : List (δ × List α)} (hsize : ChunkSize.ofValue settings.batchSize = .atMost size)
    (ho : o.CallbacksReturn) (hs : Leads o.traced (.new settings ⟨world, []⟩) accepted s)
    (hretries : ∀ retries, ∃ exhausted, s.queue.settings.isExhausted retries = .ok exhausted)
    (hclosed : s.queue.running = false) (hstopping : s.queue.stopping = true) : s.IsClosing := by
  obtain ⟨s', hs', rfl⟩ := hs.exists_recorded []
  have htended := hs'.tended hsize (callbacksReturn_traced ho)
  obtain ⟨lost, hbalance⟩ := hs'.runs.exists_balance
  obtain ⟨finished, held, told, hholding, -⟩ := htended.told
  refine ⟨⟨size, htended.size_eq⟩, hretries, hclosed, hstopping, fun hfailed => ?_,
    fun hend => (hbalance.ended hend).1⟩
  have hfailed : s'.queue.phase = .failed := hfailed
  rw [hfailed] at hholding
  cases hholding

/-- **How the writer comes to its end** in any run, once the queue has been closed and retries have
been abandoned, whatever the server answers: each chunk that has not been tried since is tried at
most once, a chunk that was to be tried again after a pause is not, and the writer returns.

**Proof sketch.** Until then the writer has not failed (`Leads.isClosing`). From then on, each of
its steps takes it closer to its end (`IsClosing.foldl`): a chunk is written only where it ceases to
be one of those that are still to be tried, and the work that is left decreases. -/
theorem Leads.abandons [PartialEquivBEq δ] {settings : QueueSettings} {world : ω} {size : Nat}
    {accepted : List (δ × List α)} (hsize : ChunkSize.ofValue settings.batchSize = .atMost size)
    (ho : o.CallbacksReturn) (hs : Leads o.traced (.new settings ⟨world, []⟩) accepted s)
    (hretries : ∀ retries, ∃ exhausted, s.queue.settings.isExhausted retries = .ok exhausted)
    (hclosed : s.queue.running = false) (hstopping : s.queue.stopping = true) : Abandons o s := by
  have hclosing := hs.isClosing hsize ho hretries hclosed hstopping
  refine ⟨fun actions => ?_, fun actions => ?_, fun retries c fault rest hphase elapsed => ?_,
    fun actions hsteps => ?_⟩
  · obtain ⟨tried, hwrites, hremaining⟩ := (hclosing.foldl ho actions).tries
    exact ⟨tried, _, hwrites, hremaining⟩
  · obtain ⟨tried, hwrites, hremaining⟩ := (hclosing.foldl ho actions).tries
    rw [hwrites, ← hremaining, List.length_append, List.length_append, List.length_map]
    omega
  · obtain ⟨phase, world, hdiscard, rfl | ⟨-, hno⟩⟩ :=
      WriteQueue.exists_discard_traced o s.queue c fault rest s.world
    · refine ⟨world, ?_⟩
      simp only [SharedQueue.step, SharedQueue.writerStep, hphase, advance, WriteQueue.step,
        hstopping, if_true, hdiscard]
    · exact absurd ho hno
  · have hadvances := hclosing.foldl ho actions
    have hwork : (actions.foldl (SharedQueue.step o.traced) s).work = 0 :=
      Nat.eq_zero_of_le_zero ((Nat.sub_eq_zero_of_le hsteps) ▸ hadvances.work_le)
    obtain ⟨hphase, hwriting⟩ := hadvances.closing.of_work_eq_zero hwork
    obtain ⟨tried, hwrites, hremaining⟩ := hadvances.tries
    refine ⟨hphase, by simp only [hasEnded, hphase, hwriting, Bool.not_false], ?_⟩
    have hnone := WriteQueue.queuedChunks_of_isEmpty (hadvances.closing.emptied hphase)
    rw [WriteQueue.remaining, hphase, hnone] at hremaining
    rw [hwrites, ← hremaining]
    simp [WriterPhase.untried]

end After

/-- An outlet that is never available, and whose callbacks do nothing. -/
def refusingOutlet : Outlet Unit String Nat Nat where
  write _ _ w := (.error WriteQueue.unavailable, w)
  confirm _ _ w := (.ok (), w)
  drop _ _ _ w := (.ok (), w)
  pause _ _ _ w := (false, w)

/-- Two points that are written one by one, and tried again as often as needed. -/
def patientSettings : QueueSettings := { batchSize := .int 1, backoff := ⟨.int 5, .int 300⟩ }

/-- Two points, of which the first has been tried once. -/
def triedFirst : SharedQueue (Recorded Unit (OutletCall String Nat Nat)) String Nat Nat :=
  [Action.write true, .write true].foldl (step refusingOutlet.traced)
    { new patientSettings ⟨(), []⟩ with
      queue := (WriteQueue.new patientSettings).store "weather" [1, 2] [10, 20] }

/-- Two points, of which the first was to be tried again when the queue was closed. -/
def pausedPair : SharedQueue (Recorded Unit (OutletCall String Nat Nat)) String Nat Nat :=
  [Action.refuse, .abandon].foldl (step refusingOutlet.traced) triedFirst

/-- The run of two points, of which the first was to be tried again when the queue was closed. -/
lemma leads_pausedPair :
    Leads refusingOutlet.traced (.new patientSettings ⟨(), []⟩) [("weather", [1, 2])]
      pausedPair := by
  have hoffer : Leads refusingOutlet.traced (.new patientSettings ⟨(), []⟩) [("weather", [1, 2])]
      { new patientSettings ⟨(), []⟩ with
        queue := (WriteQueue.new patientSettings).store "weather" [1, 2] [10, 20] } :=
    Leads.start.offer "weather" [1, 2] [10, 20] rfl
  have htried := (hoffer.write true nofun).write true
    fun retries chunk rest fault hphase hwrite => by
      cases hphase
      cases hwrite
      exact ⟨_, rfl⟩
  exact (htried.step .refuse (by simp) (by simp)).step .abandon (by simp) (by simp)

/-- The first of two points, which was to be tried again when the queue was closed, is dropped. The
second one is tried once, and then the writer returns, although the server is never available. -/
theorem abandons_pausedPair :
    Abandons refusingOutlet pausedPair ∧ pausedPair.work = 6 ∧
      ((List.replicate 6 (.write true)).foldl (step refusingOutlet.traced) pausedPair).hasEnded =
        true ∧
      writesOf ((List.replicate 6 (.write true)).foldl (step refusingOutlet.traced)
        pausedPair).world.records = [("weather", [1]), ("weather", [2])] := by
  have hsize : ChunkSize.ofValue patientSettings.batchSize = .atMost 1 := rfl
  have hstopping : pausedPair.queue.stopping = true := rfl
  have hclosed := leads_pausedPair.running_of_stopping (fun _ _ _ _ => rfl) hstopping
  have habandons : Abandons refusingOutlet pausedPair :=
    leads_pausedPair.abandons hsize ⟨fun _ _ _ => rfl, fun _ _ _ _ => rfl⟩
      (fun _ => ⟨_, rfl⟩) hclosed hstopping
  obtain ⟨-, hended, hwrites⟩ := habandons.returns (List.replicate 6 (.write true)) (by decide)
  exact ⟨habandons, rfl, hended, hwrites⟩

end SharedQueue

end SeriesClient
