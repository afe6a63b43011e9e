import SeriesClient.Proofs.Result
import SeriesClient.WriteQueue.Writer

set_option relaxedAutoImplicit false
set_option autoImplicit false

/-!
# Queues that several threads use

A queue that any number of threads add points to, that some threads flush and close, and that
one thread works off. Whatever a thread does while it holds the lock is one action, and so is
each step of the writer; a run is any sequence of actions.

## Main definitions

* `SeriesClient.Outlet.recorded` — an outlet that keeps a record of what it was told.
* `SeriesClient.SharedQueue` — a queue with what the threads share.
* `SeriesClient.SharedQueue.Action` — what a thread can do.
* `SeriesClient.SharedQueue.step` — the effect of an action.
* `SeriesClient.SharedQueue.Reachable` — the states that runs lead to.

## Main results

* `SeriesClient.SharedQueue.Reachable.erase` — keeping a record changes nothing else.

## Design

An action that a thread cannot take yet, such as the return of a flush while points wait,
changes nothing. A flush is two actions, its call and its return. Closing is three: accepting
no more points, abandoning retries, and the return once the writer has ended.

A run is the life of one writer, from the making of the queue to the end of its close. A queue that
is started again after that is a new queue, but for what a writer that failed has left waiting, and
another run begins; so there is no action that starts one.

A computation of a delay that fails ends the writer, so a run takes a step of the writer only
where the delay can be computed. What is said about callbacks is said of the outlet.
-/

namespace SeriesClient

variable {ω δ α κ : Type}

/-! ## Records -/

/-- What an outlet was told. -/
inductive OutletRecord (δ α κ : Type) where
  /-- Points were written. -/
  | written (database : δ) (points : List α)
  /-- A point was confirmed. -/
  | confirmed (point : α) (cookie : κ)
  /-- Points were dropped. -/
  | dropped (database : δ) (points : List α) (fault : Fault)

/-- An outlet that keeps a record of successful writes and of every call of a callback. -/
def Outlet.recorded (o : Outlet ω δ α κ) : Outlet (Recorded ω (OutletRecord δ α κ)) δ α κ where
  write database points w :=
    match o.write database points w.world with
    | (.ok (), world) => (.ok (), ⟨world, w.records ++ [.written database points]⟩)
    | (.error fault, world) => (.error fault, ⟨world, w.records⟩)
  confirm point cookie w :=
    let (result, world) := o.confirm point cookie w.world
    (result, ⟨world, w.records ++ [.confirmed point cookie]⟩)
  drop database points fault w :=
    let (result, world) := o.drop database points fault w.world
    (result, ⟨world, w.records ++ [.dropped database points fault]⟩)
  pause attempt fault delay w :=
    let (interrupted, world) := o.pause attempt fault delay w.world
    (interrupted, ⟨world, w.records⟩)

/-- No callback of an outlet fails. -/
structure Outlet.CallbacksReturn (o : Outlet ω δ α κ) : Prop where
  /-- Confirming a point does not fail. -/
  confirm : ∀ point cookie w, (o.confirm point cookie w).1 = .ok ()
  /-- Dropping points does not fail. -/
  drop : ∀ database points fault w, (o.drop database points fault w).1 = .ok ()

namespace WriteQueue

/-- What comes after the attempt that the writer is about to make can be told, if the attempt
fails: the delay can be computed. -/
def DelayReturns (o : Outlet ω δ α κ) (q : WriteQueue δ α κ) (w : ω) : Prop :=
  ∀ retries chunk rest fault, q.phase = .attempting retries chunk rest →
    (o.write chunk.database chunk.points w).1 = .error fault →
      ∃ verdict, q.judge retries fault = .ok verdict

/-- **Keeping a record changes nothing else.** -/
lemma step_recorded (o : Outlet ω δ α κ) (q : WriteQueue δ α κ)
    (w : Recorded ω (OutletRecord δ α κ)) :
    (q.step o.recorded w).1 = (q.step o w.world).1 ∧
      (q.step o.recorded w).2.world = (q.step o w.world).2 := by
  have hdiscard : ∀ (chunk : Chunk δ α κ) (fault : Fault) (rest : List (Chunk δ α κ))
      (w : Recorded ω (OutletRecord δ α κ)),
      (q.discard o.recorded chunk fault rest w).1 = (q.discard o chunk fault rest w.world).1 ∧
        (q.discard o.recorded chunk fault rest w).2.world =
          (q.discard o chunk fault rest w.world).2 := by
    intro chunk fault rest w
    simp only [discard, Outlet.recorded]
    rcases hdrop : o.drop chunk.database chunk.points fault w.world with ⟨_ | _, world⟩ <;>
      simp [hdrop]
  unfold step
  split
  · split
    · exact ⟨rfl, rfl⟩
    · split <;> exact ⟨rfl, rfl⟩
  · next retries chunk rest _ =>
    unfold attempt
    simp only [Outlet.recorded]
    rcases hwrite : o.write chunk.database chunk.points w.world with ⟨fault | _, world⟩
    · simp only
      rcases q.judge retries fault with fault' | verdict
      · exact ⟨rfl, rfl⟩
      · cases verdict with
        | drop => exact hdiscard chunk fault rest ⟨world, w.records⟩
        | retry delay => exact ⟨rfl, rfl⟩
    · exact ⟨rfl, rfl⟩
  · next retries chunk fault rest _ =>
    split
    · exact hdiscard chunk fault rest w
    · exact ⟨rfl, rfl⟩
  · exact ⟨rfl, rfl⟩
  · next p cookie points rest _ =>
    simp only [Outlet.recorded]
    rcases hconfirm : o.confirm p cookie w.world with ⟨_ | _, world⟩ <;>
      simp [hconfirm]
  · exact ⟨rfl, rfl⟩
  · exact ⟨rfl, rfl⟩

end WriteQueue

/-! ## Threads -/

/-- A queue with what the threads share. -/
structure SharedQueue (ω δ α κ : Type) where
  /-- The queue. -/
  queue : WriteQueue δ α κ
  /-- The state of the outlet. -/
  world : ω
  /-- Whether the writer has taken points that it has not let go of. -/
  writing : Bool
  /-- Whether the writer need not gather points any longer. -/
  flushRequested : Bool
  /-- How many flushes have not returned. -/
  flushing : Nat
  /-- The points that were accepted, with their databases and cookies, in order. -/
  accepted : List (δ × List (α × κ))

namespace SharedQueue

/-- What a thread can do during the life of a writer. -/
inductive Action (δ α κ : Type) where
  /-- A thread adds points, each with its cookie. -/
  | append (database : δ) (items : List (α × κ))
  /-- A thread calls for a flush. -/
  | beginFlush
  /-- A flush returns, if everything has been dealt with. -/
  | endFlush
  /-- The closing thread lets no more points in. -/
  | refuse
  /-- The closing thread has retries abandoned. -/
  | abandon
  /-- The closing thread returns, if the writer has ended. -/
  | join
  /-- The writer takes a step; the time for gathering points may have elapsed. -/
  | write (elapsed : Bool)

/-- A queue that was just made, with its writer. -/
def new (settings : QueueSettings) (world : ω) : SharedQueue ω δ α κ :=
  ⟨.new settings, world, false, false, 0, []⟩

/-- The writer goes on with the queue. -/
def advance (o : Outlet ω δ α κ) (s : SharedQueue ω δ α κ) : SharedQueue ω δ α κ :=
  let (queue, world) := s.queue.step o s.world
  { s with queue, world }

/-- Whether no more points need be gathered. -/
def gathered (s : SharedQueue ω δ α κ) : Except Fault Bool :=
  if s.flushRequested || !s.queue.running then .ok true
  else (Value.int s.queue.pointCount).atLeast s.queue.settings.batchSize

/-- The writer takes a step. It takes what waits once enough points have been gathered or the
time for this has elapsed, and tells when it has let go of everything. -/
def writerStep (o : Outlet ω δ α κ) (elapsed : Bool) (s : SharedQueue ω δ α κ) :
    SharedQueue ω δ α κ :=
  match s.queue.phase with
  | .idle =>
    if s.writing then { s with writing := false }
    else if s.queue.queued.isEmpty then s.advance o
    else
      match s.gathered with
      | .error _ => { s with queue := { s.queue with phase := .failed } }
      | .ok gathered => if gathered || elapsed then { s.advance o with writing := true } else s
  | .failed | .finished => { s with writing := false }
  | _ => s.advance o

/-- Whether the writer has ended. -/
def hasEnded (s : SharedQueue ω δ α κ) : Bool :=
  match s.queue.phase with
  | .failed | .finished => !s.writing
  | _ => false

/-- Adds points, unless the queue has been closed. -/
def append [BEq δ] (s : SharedQueue ω δ α κ) (database : δ) (items : List (α × κ)) :
    SharedQueue ω δ α κ :=
  match s.queue.accept database (items.map Prod.fst) (items.map Prod.snd) with
  | .ok queue => { s with queue, accepted := s.accepted ++ [(database, items)] }
  | .error _ => s

/-- The effect of an action. -/
def step [BEq δ] (o : Outlet ω δ α κ) (s : SharedQueue ω δ α κ) :
    Action δ α κ → SharedQueue ω δ α κ
  | .append database items => s.append database items
  | .beginFlush =>
    if s.queue.hasWriter then { s with flushRequested := true, flushing := s.flushing + 1 } else s
  | .endFlush =>
    if 0 < s.flushing && s.queue.queued.isEmpty && !s.writing then
      { s with flushRequested := false, flushing := s.flushing - 1 }
    else s
  | .refuse => if s.queue.hasWriter then { s with queue := s.queue.refuse } else s
  | .abandon => if s.queue.running then s else { s with queue := s.queue.abandon }
  | .join =>
    if s.queue.stopping && s.hasEnded then { s with queue := { s.queue with hasWriter := false } }
    else s
  | .write elapsed => s.writerStep o elapsed

/-- The states that runs lead to from a state of the outlet, where the delays that come up can be
computed. -/
inductive Reachable [BEq δ] (o : Outlet ω δ α κ) (settings : QueueSettings) (world : ω) :
    SharedQueue ω δ α κ → Prop where
  /-- A queue that was just made. -/
  | new : Reachable o settings world (.new settings world)
  /-- A queue after one more action. -/
  | step {s : SharedQueue ω δ α κ} (a : Action δ α κ) (h : Reachable o settings world s)
    (hdelay : ∀ elapsed, a = .write elapsed → s.queue.DelayReturns o s.world) :
    Reachable o settings world (s.step o a)

/-- The queue without the record of its outlet. -/
def erase (s : SharedQueue (Recorded ω (OutletRecord δ α κ)) δ α κ) : SharedQueue ω δ α κ :=
  { s with world := s.world.world }

/-- Going on with a queue is the same with and without the record. -/
lemma erase_advance (o : Outlet ω δ α κ)
    (s : SharedQueue (Recorded ω (OutletRecord δ α κ)) δ α κ) :
    (s.advance o.recorded).erase = s.erase.advance o := by
  have hstep := WriteQueue.step_recorded o s.queue s.world
  simp only [advance, erase, hstep.1, hstep.2]

/-- A step of the writer is the same with and without the record. -/
lemma erase_writerStep (o : Outlet ω δ α κ) (elapsed : Bool)
    (s : SharedQueue (Recorded ω (OutletRecord δ α κ)) δ α κ) :
    (s.writerStep o.recorded elapsed).erase = s.erase.writerStep o elapsed := by
  have hadvance := erase_advance o s
  have hqueue : s.erase.queue = s.queue := rfl
  have hwriting : s.erase.writing = s.writing := rfl
  have hgathered : s.erase.gathered = s.gathered := rfl
  simp only [writerStep, hqueue, hwriting, hgathered, ← hadvance]
  split
  · split
    · rfl
    · split
      · rfl
      · split
        · rfl
        · split <;> rfl
  · rfl
  · rfl
  · rfl

/-- **An action has the same effect with and without the record.** -/
lemma erase_step [BEq δ] (o : Outlet ω δ α κ)
    (s : SharedQueue (Recorded ω (OutletRecord δ α κ)) δ α κ) (a : Action δ α κ) :
    (s.step o.recorded a).erase = s.erase.step o a := by
  cases a with
  | append database items =>
    have hqueue : s.erase.queue = s.queue := rfl
    simp only [step, append, hqueue]
    split <;> rfl
  | write elapsed => exact erase_writerStep o elapsed s
  | beginFlush | refuse | abandon =>
    have hqueue : s.erase.queue = s.queue := rfl
    simp only [step, hqueue]
    split <;> rfl
  | endFlush =>
    have hready : (0 < s.erase.flushing && s.erase.queue.queued.isEmpty && !s.erase.writing) =
        (0 < s.flushing && s.queue.queued.isEmpty && !s.writing) := rfl
    simp only [step, hready]
    split <;> rfl
  | join =>
    have hready : (s.erase.queue.stopping && s.erase.hasEnded) =
        (s.queue.stopping && s.hasEnded) := rfl
    simp only [step, hready]
    split <;> rfl

/-- **The runs of an outlet with a record are those of the outlet.** -/
theorem Reachable.erase [BEq δ] {o : Outlet ω δ α κ} {settings : QueueSettings}
    {w : Recorded ω (OutletRecord δ α κ)} {s : SharedQueue (Recorded ω (OutletRecord δ α κ)) δ α κ}
    (h : Reachable o.recorded settings w s) : Reachable o settings w.world s.erase := by
  induction h with
  | new => exact .new
  | @step s a _ hdelay ih =>
    rw [erase_step]
    refine ih.step a fun elapsed ha retries chunk rest fault hphase hwrite => ?_
    refine hdelay elapsed ha retries chunk rest fault hphase ?_
    have hwrite : (o.write chunk.database chunk.points s.world.world).1 = .error fault := hwrite
    simp only [Outlet.recorded]
    split
    · next hok =>
      rw [hok] at hwrite
      cases hwrite
    · next herror =>
      rw [herror] at hwrite
      exact hwrite

end SharedQueue

end SeriesClient
