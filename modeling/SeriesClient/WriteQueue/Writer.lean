import SeriesClient.WriteQueue.Basic

set_option relaxedAutoImplicit false
set_option autoImplicit false

/-!
# The writer of a queue

The steps of the writer. Each step is one thing that nothing else can interrupt: taking
what waits, one attempt to write, one pause, or one call of a callback.

## Main definitions

* `SeriesClient.Outlet` — where points go, and what is told about them.
* `SeriesClient.WriteQueue.step` — one step of the writer.
* `SeriesClient.WriteQueue.settle` — steps until the writer has nothing to do.

## Main results

* `SeriesClient.WriteQueue.step_of_blocked` — a writer without work does nothing.

## Design

The writer fails when a callback fails, when a delay cannot be computed, or when the size of
chunks is unusable. What it held is then lost, and what waits stays where it is.
-/

namespace SeriesClient

/-- Where points go, and what is told about them; `ω` is the state of the outlet. -/
structure Outlet (ω δ α κ : Type) where
  /-- Tries to write points. -/
  write : δ → List α → ω → Except Fault Unit × ω
  /-- Tells that a point was written. -/
  confirm : α → κ → ω → Except Fault Unit × ω
  /-- Tells that points were dropped. -/
  drop : δ → List α → Fault → ω → Except Fault Unit × ω
  /-- Waits before the attempt of the given number; tells whether retries are to be abandoned
  meanwhile. -/
  pause : Nat → Fault → Value → ω → Bool × ω

namespace WriteQueue

variable {ω δ α κ : Type}

/-- What comes after an attempt that failed. -/
inductive Verdict where
  /-- The chunk is dropped. -/
  | drop
  /-- The chunk is tried again after a delay. -/
  | retry (delay : Value)

/-- Decides what comes after an attempt that failed. -/
def judge (q : WriteQueue δ α κ) (retries : Nat) (fault : Fault) : Except Fault Verdict := do
  let exhausted ← q.settings.isExhausted retries
  if !fault.isRetryable || exhausted || q.stopping then return .drop
  return .retry (← q.settings.backoff.delay retries fault)

/-- Takes everything that waits. -/
def take (q : WriteQueue δ α κ) : WriteQueue δ α κ :=
  let phase := match chunksOf? (.ofValue q.settings.batchSize) q.queued.entries with
    | some chunks => .ofChunks chunks
    | none => .failed
  { q with queued := .empty, phase }

/-- Drops a chunk, and goes on with the rest. -/
def discard (o : Outlet ω δ α κ) (q : WriteQueue δ α κ) (chunk : Chunk δ α κ) (fault : Fault)
    (rest : List (Chunk δ α κ)) (w : ω) : WriteQueue δ α κ × ω :=
  match o.drop chunk.database chunk.points fault w with
  | (.ok (), w) => ({ q with phase := .ofChunks rest }, w)
  | (.error _, w) => ({ q with phase := .failed }, w)

/-- One attempt to write a chunk. -/
def attempt (o : Outlet ω δ α κ) (q : WriteQueue δ α κ) (retries : Nat) (chunk : Chunk δ α κ)
    (rest : List (Chunk δ α κ)) (w : ω) : WriteQueue δ α κ × ω :=
  match o.write chunk.database chunk.points w with
  | (.ok (), w) => ({ q with phase := .confirming (chunk.points.zip chunk.cookies) rest }, w)
  | (.error fault, w) =>
    match q.judge retries fault with
    | .error _ => ({ q with phase := .failed }, w)
    | .ok .drop => q.discard o chunk fault rest w
    | .ok (.retry delay) =>
      let (interrupted, w) := o.pause (retries + 1) fault delay w
      ({ q with
          stopping := q.stopping || interrupted
          phase := .pausing (retries + 1) chunk fault rest }, w)

/-- One step of the writer. -/
def step (o : Outlet ω δ α κ) (q : WriteQueue δ α κ) (w : ω) : WriteQueue δ α κ × ω :=
  match q.phase with
  | .idle =>
    if !q.queued.isEmpty then (q.take, w)
    else if q.running then (q, w)
    else ({ q with phase := .finished }, w)
  | .attempting retries chunk rest => q.attempt o retries chunk rest w
  | .pausing retries chunk fault rest =>
    if q.stopping then q.discard o chunk fault rest w
    else ({ q with phase := .attempting retries chunk rest }, w)
  | .confirming [] rest => ({ q with phase := .ofChunks rest }, w)
  | .confirming ((p, cookie) :: points) rest =>
    match o.confirm p cookie w with
    | (.ok (), w) => ({ q with phase := .confirming points rest }, w)
    | (.error _, w) => ({ q with phase := .failed }, w)
  | .failed | .finished => (q, w)

/-- Whether the writer can do nothing: it waits for points, has failed, or has ended. -/
def isBlocked (q : WriteQueue δ α κ) : Bool :=
  match q.phase with
  | .idle => q.queued.isEmpty && q.running
  | .failed | .finished => true
  | _ => false

/-- A writer without work does nothing. -/
theorem step_of_blocked (o : Outlet ω δ α κ) (q : WriteQueue δ α κ) (w : ω)
    (h : q.isBlocked = true) : q.step o w = (q, w) := by
  unfold isBlocked at h
  unfold step
  split at h <;> simp_all

/-- At most `bound` steps, up to where the writer can do nothing. -/
def stepTo (o : Outlet ω δ α κ) : Nat → WriteQueue δ α κ → ω → WriteQueue δ α κ × ω
  | 0, q, w => (q, w)
  | bound + 1, q, w =>
    if q.isBlocked then (q, w)
    else
      let (q, w) := q.step o w
      stepTo o bound q w

-- The empty sum is the numeral zero, also where the zero of a monoid is in scope.
attribute [local instance (2000)] Zero.ofOfNat0 in
/-- How many points wait. -/
def pointCount (q : WriteQueue δ α κ) : Nat :=
  (q.sizes.map Prod.snd).sum

/-- Steps of an idle writer until it can do nothing, where at most `failures` attempts fail
in a way that may pass. There are at most as many chunks as points; each failure adds an
attempt and a pause, and each point one step. -/
def settle (o : Outlet ω δ α κ) (failures : Nat) (q : WriteQueue δ α κ) (w : ω) :
    WriteQueue δ α κ × ω :=
  stepTo o (4 * (q.pointCount + failures + 2)) q w

end WriteQueue

end SeriesClient
