import SeriesClient.Proofs.Client.Writing
import SeriesClient.Proofs.WriteQueue.Chunks
import SeriesClient.Proofs.WriteQueue.Sharing

set_option relaxedAutoImplicit false
set_option autoImplicit false

/-!
# How often a chunk is tried

A chunk whose write fails in a way that may pass is tried again after a pause, as often as the
settings allow. It is delivered by the first write that succeeds, and dropped with the failure of
the last write otherwise.

## Main definitions

* `SeriesClient.OutletCall`, `SeriesClient.Outlet.traced` — an outlet that keeps a record of every
  call, those that fail included.
* `SeriesClient.WriteScript`, `SeriesClient.Outlet.scripted` — an outlet whose writes are answered
  from a script.
* `SeriesClient.Retried` — what is called for failures after which a chunk is tried again.
* `SeriesClient.Conclusion` — what the last write of a chunk leads to.

## Main results

* `SeriesClient.WriteQueue.exists_retried` — a chunk is tried again after each failure that may
  pass.
* `SeriesClient.WriteQueue.retries_run` — how a chunk is dealt with for every script.

## Design

The callbacks may come to anything. They are called only after the last write of a chunk.
-/

namespace SeriesClient

variable {ω δ α κ : Type}

/-! ## Calls -/

/-- A call of an outlet. -/
inductive OutletCall (δ α κ : Type) where
  /-- Points were to be written; the call came to this. -/
  | write (database : δ) (points : List α) (result : Except Fault Unit)
  /-- The writer paused before the attempt of the given number. -/
  | pause (attempt : Nat) (fault : Fault) (delay : Value)
  /-- A point was confirmed. -/
  | confirm (point : α) (cookie : κ)
  /-- Points were dropped. -/
  | drop (database : δ) (points : List α) (fault : Fault)

/-- The points that a call was to write, with their database. -/
def OutletCall.written? : OutletCall δ α κ → Option (δ × List α)
  | write database points _ => some (database, points)
  | _ => none

/-- What was to be written, call by call. -/
def writesOf (calls : List (OutletCall δ α κ)) : List (δ × List α) :=
  calls.filterMap OutletCall.written?

/-- What two records were to write is what each of them was. -/
@[simp]
lemma writesOf_append (calls more : List (OutletCall δ α κ)) :
    writesOf (calls ++ more) = writesOf calls ++ writesOf more :=
  List.filterMap_append

/-- An outlet that keeps a record of every call. -/
def Outlet.traced (o : Outlet ω δ α κ) : Outlet (Recorded ω (OutletCall δ α κ)) δ α κ where
  write database points w :=
    let (result, world) := o.write database points w.world
    (result, ⟨world, w.records ++ [.write database points result]⟩)
  confirm point cookie w :=
    let (result, world) := o.confirm point cookie w.world
    (result, ⟨world, w.records ++ [.confirm point cookie]⟩)
  drop database points fault w :=
    let (result, world) := o.drop database points fault w.world
    (result, ⟨world, w.records ++ [.drop database points fault]⟩)
  pause attempt fault delay w :=
    let (interrupted, world) := o.pause attempt fault delay w.world
    (interrupted, ⟨world, w.records ++ [.pause attempt fault delay]⟩)

/-! ## Scripts -/

/-- What writes will come to, and the state of the callbacks. -/
structure WriteScript (ω : Type) where
  /-- What the writes to come will come to, in order. -/
  outcomes : List (Except Fault Unit)
  /-- The state of the callbacks. -/
  world : ω

/-- An outlet whose writes are answered from a script, and then with success. Its callbacks are
those of the outlet given, and nobody has retries abandoned during a pause. -/
def Outlet.scripted (o : Outlet ω δ α κ) : Outlet (WriteScript ω) δ α κ where
  write _ _ w := (w.outcomes.headD (.ok ()), { w with outcomes := w.outcomes.tail })
  confirm point cookie w :=
    let (result, world) := o.confirm point cookie w.world
    (result, { w with world })
  drop database points fault w :=
    let (result, world) := o.drop database points fault w.world
    (result, { w with world })
  pause _ _ _ w := (false, w)

/-! ## Retries -/

namespace QueueSettings

/-- How often a chunk is tried again; without a number, as often as needed. -/
def Allows (s : QueueSettings) (budget : Option Nat) : Prop :=
  s.maxRetries = budget.elim .null fun m => .int m

/-- A chunk is not tried any more once it has been tried again as often as allowed. -/
lemma Allows.isExhausted {s : QueueSettings} {budget : Option Nat} (h : s.Allows budget)
    (retries : Nat) : s.isExhausted retries = .ok (budget.any (· ≤ retries)) := by
  unfold QueueSettings.isExhausted
  rw [Allows] at h
  rw [h]
  cases budget with
  | none => rfl
  | some m =>
    simp only [Option.elim, Value.isNull, Bool.false_eq_true, if_false, Value.atLeast_int,
      Option.any_some, Int.ofNat_le]

end QueueSettings

/-- How often a chunk is tried again that fails so often in ways that may pass. -/
def retriesWithin (budget : Option Nat) (failures : Nat) : Nat :=
  budget.elim failures (min failures)

/-- A chunk is not tried again more often than it fails. -/
lemma retriesWithin_le (budget : Option Nat) (failures : Nat) :
    retriesWithin budget failures ≤ failures := by
  cases budget with
  | none => exact Nat.le_refl _
  | some m => exact Nat.min_le_left _ _

/-- A chunk is not tried again more often than allowed. -/
lemma retriesWithin_le_of_eq_some {budget : Option Nat} {m : Nat} (h : budget = some m)
    (failures : Nat) : retriesWithin budget failures ≤ m := by
  subst h
  exact Nat.min_le_right _ _

/-- A chunk is tried again after each failure if that is allowed. -/
lemma retriesWithin_eq_iff {budget : Option Nat} {failures : Nat} :
    retriesWithin budget failures = failures ↔ ∀ m, budget = some m → failures ≤ m := by
  cases budget with
  | none => simp [retriesWithin]
  | some m =>
    simp only [retriesWithin, Option.elim, Option.some.injEq, forall_eq']
    omega

/-- **The last write of a chunk** is the one after the last retry. It comes to the outcome behind
the failures, or to a failure after which the chunk is not tried again although it might be. -/
lemma exists_last_outcome (budget : Option Nat) {failures : List Fault}
    {last : Except Fault Unit} {later outcomes : List (Except Fault Unit)} {used : Nat}
    (hused : retriesWithin budget failures.length = used)
    (hscript : outcomes = failures.map .error ++ last :: later) :
    ∃ result rest, (failures.map .error ++ [last])[used]? = some result ∧
      outcomes = (failures.take used).map .error ++ result :: rest ∧
      ((used = failures.length ∧ result = last) ∨
        (used < failures.length ∧ budget = some used ∧ ∃ e, result = .error e)) := by
  have hcut : outcomes =
      (failures.take used).map .error ++ ((failures.drop used).map .error ++ last :: later) := by
    rw [hscript, ← List.append_assoc, ← List.map_append, List.take_append_drop]
  have hle : used ≤ failures.length := hused ▸ retriesWithin_le budget failures.length
  rcases Nat.eq_or_lt_of_le hle with hall | hfewer
  · refine ⟨last, later, ?_, ?_, .inl ⟨hall, rfl⟩⟩
    · rw [hall, List.getElem?_append_right (by simp)]
      simp
    · rw [hcut, hall, List.drop_length]
      rfl
  · have hbudget : budget = some used := by
      cases budget with
      | none => exact absurd hused (Nat.ne_of_gt hfewer)
      | some m =>
        simp only [retriesWithin, Option.elim] at hused
        exact congrArg some (by omega)
    refine ⟨.error failures[used], (failures.drop (used + 1)).map .error ++ last :: later, ?_, ?_,
      .inr ⟨hfewer, hbudget, _, rfl⟩⟩
    · rw [List.getElem?_append_left (by simpa using hfewer)]
      simp [hfewer]
    · rw [hcut, List.drop_eq_getElem_cons hfewer]
      rfl

/-- The calls for failures after each of which a chunk is tried again: for each of them, one write
of all points of the chunk, and one pause. The delay is the one for this failure after as many
retries as there have been. -/
inductive Retried (b : Backoff) (c : Chunk δ α κ) :
    Nat → List Fault → List (OutletCall δ α κ) → Prop where
  | nil (retries : Nat) : Retried b c retries [] []
  | cons {retries : Nat} {fault : Fault} {failures : List Fault} {delay : Value}
    {calls : List (OutletCall δ α κ)} (hdelay : b.delay retries fault = .ok delay)
    (h : Retried b c (retries + 1) failures calls) :
    Retried b c retries (fault :: failures)
      (.write c.database c.points (.error fault) :: .pause (retries + 1) fault delay :: calls)

/-- There is one write for each failure. -/
lemma Retried.writesOf_eq {b : Backoff} {c : Chunk δ α κ} {retries : Nat} {failures : List Fault}
    {calls : List (OutletCall δ α κ)} (h : Retried b c retries failures calls) :
    writesOf calls = List.replicate failures.length (c.database, c.points) := by
  induction h with
  | nil => rfl
  | cons hdelay _ ih =>
    rw [List.length_cons, List.replicate_succ, ← ih]
    rfl

/-- What the last write of a chunk leads to: success to the confirmation of its points, and failure
to a single drop, after which the writer goes on with the rest, unless the callback fails. -/
inductive Conclusion (q : WriteQueue δ α κ) (c : Chunk δ α κ) (rest : List (Chunk δ α κ)) :
    Except Fault Unit → WriteQueue δ α κ → List (OutletCall δ α κ) → Prop where
  | delivered : Conclusion q c rest (.ok ()) { q with phase := .confirming c.items rest }
      [.write c.database c.points (.ok ())]
  | dropped (fault : Fault) {phase : WriterPhase δ α κ}
    (hphase : phase = .ofChunks rest ∨ phase = .failed) :
    Conclusion q c rest (.error fault) { q with phase }
      [.write c.database c.points (.error fault), .drop c.database c.points fault]

/-- What the last write leads to does not depend on what the writer was doing. -/
lemma Conclusion.of_phase {q q' : WriteQueue δ α κ} {phase : WriterPhase δ α κ}
    {c : Chunk δ α κ} {rest : List (Chunk δ α κ)} {result : Except Fault Unit}
    {calls : List (OutletCall δ α κ)} (h : Conclusion { q with phase } c rest result q' calls) :
    Conclusion q c rest result q' calls := by
  cases h with
  | delivered => exact .delivered
  | dropped fault hphase => exact .dropped fault hphase

/-- A chunk is delivered if its last write succeeded, and dropped otherwise; either way, its points
were written once more. -/
lemma Conclusion.writesOf_eq {q q' : WriteQueue δ α κ} {c : Chunk δ α κ}
    {rest : List (Chunk δ α κ)} {result : Except Fault Unit} {calls : List (OutletCall δ α κ)}
    (h : Conclusion q c rest result q' calls) : writesOf calls = [(c.database, c.points)] := by
  cases h <;> rfl

namespace WriteQueue

/-- Dropping a chunk is a single call, after which the writer goes on with the rest, unless the
callback fails. -/
lemma exists_discard_traced (o : Outlet ω δ α κ) (q : WriteQueue δ α κ) (c : Chunk δ α κ)
    (fault : Fault) (rest : List (Chunk δ α κ)) (w : Recorded ω (OutletCall δ α κ)) :
    ∃ phase world, q.discard o.traced c fault rest w =
        ({ q with phase }, ⟨world, w.records ++ [.drop c.database c.points fault]⟩) ∧
      (phase = .ofChunks rest ∨ phase = .failed ∧ ¬ o.CallbacksReturn) := by
  rcases hdrop : o.drop c.database c.points fault w.world with ⟨result | _, world⟩
  · refine ⟨.failed, world, ?_, .inr ⟨rfl, fun ho => ?_⟩⟩
    · simp only [discard, Outlet.traced, hdrop]
    · have hreturns := ho.drop c.database c.points fault w.world
      rw [hdrop] at hreturns
      cases hreturns
  · refine ⟨.ofChunks rest, world, ?_, .inl rfl⟩
    simp only [discard, Outlet.traced, hdrop]

variable {o : Outlet ω δ α κ} {q : WriteQueue δ α κ} {c : Chunk δ α κ}
  {rest : List (Chunk δ α κ)} {retries : Nat} {budget : Option Nat} {fault : Fault}
  {w : Recorded (WriteScript ω) (OutletCall δ α κ)}

/-- After a failure that may pass, a chunk is tried again as long as that is allowed. -/
lemma judge_of_allowed (hstopping : q.stopping = false) (hbudget : q.settings.Allows budget)
    (hfault : fault.isRetryable = true) (hwithin : ∀ m, budget = some m → retries < m)
    {delay : Value} (hdelay : q.settings.backoff.delay retries fault = .ok delay) :
    q.judge retries fault = .ok (.retry delay) := by
  have hleft : budget.any (· ≤ retries) = false := by
    cases budget with
    | none => rfl
    | some m => simpa using hwithin m rfl
  simp only [judge, hbudget.isExhausted, hleft, hfault, hstopping, hdelay, bind, Except.bind]
  rfl

/-- After a failure that does not pass, or once a chunk has been tried again as often as allowed, it
is dropped. -/
lemma judge_of_final (hbudget : q.settings.Allows budget)
    (hfinal : fault.isRetryable = false ∨ budget = some retries) :
    q.judge retries fault = .ok .drop := by
  have hdrop : (!fault.isRetryable || budget.any (· ≤ retries) || q.stopping) = true := by
    rcases hfinal with hfault | rfl
    · simp [hfault]
    · simp
  simp only [judge, hbudget.isExhausted, bind, Except.bind, hdrop, if_true]
  rfl

/-- A failure after which a chunk is tried again takes two steps: the attempt, which ends in a
pause, and the end of the pause. -/
lemma stepTo_of_retry {outcomes : List (Except Fault Unit)} {delay : Value}
    (hphase : q.phase = .attempting retries c rest) (hstopping : q.stopping = false)
    (hjudge : q.judge retries fault = .ok (.retry delay))
    (hscript : w.world.outcomes = .error fault :: outcomes) (n : Nat) :
    q.stepTo o.scripted.traced (n + 1 + 1) w =
      { q with phase := .attempting (retries + 1) c rest }.stepTo o.scripted.traced n
        ⟨⟨outcomes, w.world.world⟩, w.records ++
          [OutletCall.write c.database c.points (.error fault),
            .pause (retries + 1) fault delay]⟩ := by
  have hattempt : q.step o.scripted.traced w =
      ({ q with phase := .pausing (retries + 1) c fault rest },
        ⟨⟨outcomes, w.world.world⟩, w.records ++
          [.write c.database c.points (.error fault), .pause (retries + 1) fault delay]⟩) := by
    simp only [step, hphase, attempt, Outlet.traced, Outlet.scripted, hscript, List.headD_cons,
      List.tail_cons, hjudge, Bool.or_false, List.append_assoc, List.cons_append, List.nil_append]
  have hblocked : q.isBlocked = false := by
    simp only [isBlocked, hphase]
  rw [stepTo, hblocked, hattempt]
  simp only [stepTo, isBlocked, step, hstopping, Bool.false_eq_true, if_false]

/-- **A chunk is tried again after each failure that may pass**, as long as that is allowed.

**Proof sketch.** Induction on the failures, with the number of retries so far kept general. Each
failure takes two steps: the attempt, which ends in a pause, and the end of the pause. -/
theorem exists_retried {failures : List Fault} {outcomes : List (Except Fault Unit)}
    (hphase : q.phase = .attempting retries c rest) (hstopping : q.stopping = false)
    (hbudget : q.settings.Allows budget) (hfailures : ∀ e ∈ failures, e.isRetryable = true)
    (hwithin : ∀ m, budget = some m → retries + failures.length ≤ m)
    (hdelay : ∀ i e, failures[i]? = some e →
      ∃ delay, q.settings.backoff.delay (retries + i) e = .ok delay)
    (hscript : w.world.outcomes = failures.map .error ++ outcomes) :
    ∃ calls, Retried q.settings.backoff c retries failures calls ∧
      ∀ n, q.stepTo o.scripted.traced (2 * failures.length + n) w =
        { q with phase := .attempting (retries + failures.length) c rest }.stepTo
          o.scripted.traced n ⟨⟨outcomes, w.world.world⟩, w.records ++ calls⟩ := by
  induction failures generalizing q retries w with
  | nil =>
    refine ⟨[], .nil retries, fun n => ?_⟩
    have hq : { q with phase := .attempting (retries + 0) c rest } = q := by
      rw [Nat.add_zero, ← hphase]
    have hw : (⟨⟨outcomes, w.world.world⟩, w.records ++ []⟩ :
        Recorded (WriteScript ω) (OutletCall δ α κ)) = w := by
      rw [List.map_nil, List.nil_append] at hscript
      rw [← hscript, List.append_nil]
    rw [List.length_nil, hq, hw, Nat.mul_zero, Nat.zero_add]
  | cons e failures ih =>
    have hretry : e.isRetryable = true := hfailures e List.mem_cons_self
    obtain ⟨delay, hdelay₀⟩ := hdelay 0 e rfl
    have hfirst : w.world.outcomes = .error e :: (failures.map .error ++ outcomes) := hscript
    have hjudge : q.judge retries e = .ok (.retry delay) := by
      refine judge_of_allowed hstopping hbudget hretry (fun m hm => ?_) hdelay₀
      have hm := hwithin m hm
      rw [List.length_cons] at hm
      omega
    obtain ⟨calls, hcalls, hrun⟩ := ih (q := { q with phase := .attempting (retries + 1) c rest })
      (w := ⟨⟨failures.map .error ++ outcomes, w.world.world⟩,
        w.records ++ [.write c.database c.points (.error e), .pause (retries + 1) e delay]⟩)
      rfl hstopping hbudget (fun e' he' => hfailures e' (List.mem_cons_of_mem e he'))
      (fun m hm => by
        have hm := hwithin m hm
        rw [List.length_cons] at hm
        omega)
      (fun i e' he' => by
        rw [Nat.add_assoc, Nat.add_comm 1 i]
        exact hdelay (i + 1) e' he')
      rfl
    refine ⟨_, .cons hdelay₀ hcalls, fun n => ?_⟩
    have hsteps : 2 * (e :: failures).length + n = 2 * failures.length + n + 1 + 1 := by
      rw [List.length_cons]
      omega
    have hretries : retries + (e :: failures).length = retries + 1 + failures.length := by
      rw [List.length_cons]
      omega
    rw [hsteps, stepTo_of_retry hphase hstopping hjudge hfirst, hrun, hretries, List.append_assoc]
    rfl

/-- **What the last write of a chunk leads to**, if it succeeds, fails in a way that does not pass,
or the chunk has been tried again as often as allowed. -/
lemma exists_conclusion {result : Except Fault Unit} {outcomes : List (Except Fault Unit)}
    (hphase : q.phase = .attempting retries c rest) (hbudget : q.settings.Allows budget)
    (hscript : w.world.outcomes = result :: outcomes)
    (hfinal : ∀ e, result = .error e → e.isRetryable = false ∨ budget = some retries) :
    ∃ q' w' calls, q.stepTo o.scripted.traced 1 w = (q', w') ∧
      Conclusion q c rest result q' calls ∧ w'.records = w.records ++ calls := by
  have hone : q.stepTo o.scripted.traced 1 w = q.attempt o.scripted.traced retries c rest w := by
    simp only [stepTo, isBlocked, hphase, step, Bool.false_eq_true, if_false]
  have hwrite : o.scripted.traced.write c.database c.points w =
      (result, ⟨⟨outcomes, w.world.world⟩,
        w.records ++ [.write c.database c.points result]⟩) := by
    simp only [Outlet.traced, Outlet.scripted, hscript, List.headD_cons, List.tail_cons]
  rw [hone, attempt, hwrite]
  rcases result with fault | _
  · simp only [judge_of_final hbudget (hfinal fault rfl)]
    obtain ⟨phase, world, hdiscard, hphase⟩ := exists_discard_traced o.scripted q c fault rest
      ⟨⟨outcomes, w.world.world⟩, w.records ++ [.write c.database c.points (.error fault)]⟩
    rw [hdiscard]
    exact ⟨_, _, _, rfl, .dropped fault (hphase.imp_right And.left), List.append_assoc _ _ _⟩
  · exact ⟨_, _, _, rfl, .delivered, rfl⟩

/-- **How a chunk is dealt with**, for every script whose writes fail some number of times in ways
that may pass and then succeed or fail for good. The chunk is tried again after each of these
failures, as often as allowed: all of its points are written, and one pause follows, with the delay
for this failure and this number of retries. It is delivered if it has not been given up before the
write that succeeds, and dropped with the last failure otherwise.

**Proof sketch.** Each retry consumes one failure of the script (`exists_retried`). The write after
the last retry is not followed by another one (`exists_conclusion`): it succeeds, or fails for good,
or there have been as many retries as allowed. -/
theorem retries_run {failures : List Fault} {last : Except Fault Unit}
    {later : List (Except Fault Unit)} (hphase : q.phase = .attempting 0 c rest)
    (hstopping : q.stopping = false) (hbudget : q.settings.Allows budget)
    (hscript : w.world.outcomes = failures.map .error ++ last :: later)
    (hfailures : ∀ e ∈ failures, e.isRetryable = true)
    (hlast : ∀ e, last = .error e → e.isRetryable = false)
    (hdelay : ∀ i < retriesWithin budget failures.length, ∀ e, failures[i]? = some e →
      ∃ delay, q.settings.backoff.delay i e = .ok delay) :
    ∃ result q' w' retried ending,
      q.stepTo o.scripted.traced (2 * retriesWithin budget failures.length + 1) w = (q', w') ∧
      w'.records = w.records ++ retried ++ ending ∧
      Retried q.settings.backoff c 0 (failures.take (retriesWithin budget failures.length))
        retried ∧
      Conclusion q c rest result q' ending ∧
      (failures.map .error ++ [last])[retriesWithin budget failures.length]? = some result ∧
      (result = .ok () ↔ (∀ m, budget = some m → failures.length ≤ m) ∧ last = .ok ()) ∧
      writesOf (retried ++ ending) =
        List.replicate (retriesWithin budget failures.length + 1) (c.database, c.points) := by
  generalize hused : retriesWithin budget failures.length = used at hdelay ⊢
  have hle : used ≤ failures.length := hused ▸ retriesWithin_le budget failures.length
  have hlength : (failures.take used).length = used := List.length_take_of_le hle
  have htaken : ∀ e ∈ failures.take used, e.isRetryable = true := fun e he =>
    hfailures e (List.mem_of_mem_take he)
  obtain ⟨result, outcomes, hresult, hrest, hfinal⟩ := exists_last_outcome budget hused hscript
  have hwithin : ∀ m, budget = some m → 0 + (failures.take used).length ≤ m := fun m hm => by
    rw [Nat.zero_add, hlength, ← hused]
    exact retriesWithin_le_of_eq_some hm _
  have hdelays : ∀ i e, (failures.take used)[i]? = some e →
      ∃ delay, q.settings.backoff.delay (0 + i) e = .ok delay := fun i e he => by
    rw [Nat.zero_add]
    rw [List.getElem?_take] at he
    split at he
    · next hi => exact hdelay i hi e he
    · cases he
  obtain ⟨retried, hretried, hrun⟩ :=
    exists_retried (o := o) hphase hstopping hbudget htaken hwithin hdelays hrest
  obtain ⟨q', w', ending, hlastStep, hending, hrecords⟩ := exists_conclusion (o := o)
    (q := { q with phase := .attempting (0 + (failures.take used).length) c rest })
    (w := ⟨⟨result :: outcomes, w.world.world⟩, w.records ++ retried⟩) rfl hbudget rfl
    (fun e he => by
      rw [Nat.zero_add, hlength]
      rcases hfinal with ⟨-, rfl⟩ | ⟨-, hbudget, -⟩
      · exact .inl (hlast e he)
      · exact .inr hbudget)
  refine ⟨result, q', w', retried, ending, ?_, hrecords, hretried, hending.of_phase, hresult, ?_,
    ?_⟩
  · have hsteps := hrun 1
    rw [hlength] at hsteps
    rw [hsteps]
    rwa [hlength] at hlastStep
  · rw [← retriesWithin_eq_iff, hused]
    rcases hfinal with ⟨hall, rfl⟩ | ⟨hfewer, -, e, rfl⟩
    · exact (and_iff_right hall).symm
    · exact ⟨nofun, fun h => absurd h.1 (Nat.ne_of_lt hfewer)⟩
  · rw [writesOf_append, hretried.writesOf_eq, hending.writesOf_eq, hlength, List.replicate_succ']

/-- An outlet whose callbacks do nothing. -/
def quietOutlet : Outlet Unit String Nat Nat where
  write _ _ w := (.ok (), w)
  confirm _ _ w := (.ok (), w)
  drop _ _ _ w := (.ok (), w)
  pause _ _ _ w := (false, w)

/-- A chunk of two points. -/
def weatherChunk : Chunk String Nat Nat := ⟨"weather", [1, 2], [10, 20]⟩

/-- A queue that is about to write two points, and would try them again once. -/
def attemptedPair : WriteQueue String Nat Nat :=
  { WriteQueue.new { backoff := ⟨.int 5, .int 300⟩, maxRetries := .int 1 } with
    phase := .attempting 0 weatherChunk [] }

/-- A server that is not available. -/
def unavailable : Fault := .http 503 none .none

/-- Two points that may be tried again once are dropped when they have been tried twice, although
the third attempt would have succeeded. -/
theorem retries_run_attemptedPair :
    ∃ q' w' retried ending, attemptedPair.stepTo quietOutlet.scripted.traced 3
        ⟨⟨[.error unavailable, .error unavailable, .ok ()], ()⟩, []⟩ = (q', w') ∧
      w'.records = retried ++ ending ∧
      Retried attemptedPair.settings.backoff weatherChunk 0 [unavailable] retried ∧
      Conclusion attemptedPair weatherChunk [] (.error unavailable) q' ending ∧
      writesOf (retried ++ ending) = [("weather", [1, 2]), ("weather", [1, 2])] := by
  have hretryable : ∀ e ∈ [unavailable, unavailable], e.isRetryable = true := by decide
  have hdelay : ∃ delay, attemptedPair.settings.backoff.delay 0 unavailable = .ok delay := ⟨_, rfl⟩
  have hbudget : attemptedPair.settings.Allows (some 1) := rfl
  let w : Recorded (WriteScript Unit) (OutletCall String Nat Nat) :=
    ⟨⟨[.error unavailable, .error unavailable, .ok ()], ()⟩, []⟩
  have hscript : w.world.outcomes = [unavailable, unavailable].map .error ++ .ok () :: [] := rfl
  obtain ⟨result, q', w', retried, ending, hrun, hrecords, hretried, hending, hresult, -,
      hwrites⟩ :=
    retries_run (o := quietOutlet) rfl rfl hbudget hscript hretryable nofun
      (fun i hi e he => by
        obtain rfl : i = 0 := Nat.lt_one_iff.1 hi
        obtain rfl := Option.some.inj he
        exact hdelay)
  obtain rfl := Option.some.inj hresult
  exact ⟨q', w', retried, ending, hrun, hrecords, hretried, hending, hwrites⟩

end WriteQueue

end SeriesClient
