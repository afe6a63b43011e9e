import SeriesClient.Proofs.Stream.Closing

set_option relaxedAutoImplicit false
set_option autoImplicit false

/-!
# When the source of a stream is cancelled

The source of a stream stands before something that has to be cancelled if it is not read to its
end. Whether it has come to its end is known to the source alone, so a stream closes its source in
any case, and a source that has ended does nothing.

## Main definitions

* `SeriesClient.Handler.Cancels` — a handler whose source is closed in this way.
* `SeriesClient.QueryStream.ReadsEnd` — a call for the next item that comes to the end of the
  source.
* `SeriesClient.QueryStream.EndRead` — some call does.
* `SeriesClient.QueryStream.Unended` — a stream whose source has not reported its end.
* `SeriesClient.QueryStream.Exhausted` — a stream whose source has.

## Main results

* `SeriesClient.QueryStream.Unended.next` — what a call for the next item does.
* `SeriesClient.QueryStream.Unended.run` — what calls do.
* `SeriesClient.QueryStream.cancels_iff` — a stream cancels if it is closed before the end.

## Design

The two kinds of streams exclude each other: a stream whose source has not reported its end has
cancelled it if and only if it is closed, and one whose source has reported its end has not
cancelled it. A call leads from the first kind to the second if and only if it reads the end.
-/

namespace SeriesClient

variable {ω β ι : Type}

/-- A handler that cancels its source to close it, unless the source has ended, and does not do so
otherwise. The attempts are counted. -/
structure Handler.Cancels (h : Handler ω β ι) (cancels : ω → Nat) : Prop where
  /-- A source that has ended is left alone. -/
  ended : ∀ source w, source.closed = true → h.closeSource source w = (.ok (), source, w)
  /-- Any other source is cancelled. -/
  cancelled : ∀ source w, source.closed = false →
    cancels (h.closeSource source w).2.2 = cancels w + 1
  /-- Releasing a batch does not cancel the source. -/
  releaseBatch : ∀ b w, cancels (h.releaseBatch b w).2 = cancels w
  /-- Calling back does not cancel the source. -/
  callback : ∀ w, cancels (h.callback w).2 = cancels w
  /-- Decoding does not cancel the source, unless it closes the stream. -/
  step : ∀ count step, h.decoding = .steps count step →
    ∀ b i w, cancels (step b i w).2.2 = cancels w

namespace QueryStream

/-- A call for the next item comes to the end of the source: it waits for the source, which has no
further batch and does not fail. -/
def ReadsEnd (h : Handler ω β ι) (s : QueryStream ω β) : Prop :=
  s.closed = false ∧ ∃ t, Waits h s [] t ∧ t.closed = false ∧ t.source.closed = false ∧
    t.source.failure = none

/-- One of the calls comes to the end of the source. -/
def EndRead (h : Handler ω β ι) (s : QueryStream ω β) (calls : List Call) : Prop :=
  ∃ before after, calls = before ++ .next :: after ∧ ReadsEnd h (run h s before)

/-- A stream whose source has not reported its end. -/
structure Unended (cancels : ω → Nat) (s : QueryStream ω β) : Prop where
  /-- The source has been cancelled if the stream is closed. -/
  cancels_iff : 0 < cancels s.world ↔ s.closed = true
  /-- Otherwise, it has not been closed. -/
  source_open : s.closed = false → s.source.closed = false

/-- A stream whose source has reported its end. -/
structure Exhausted (cancels : ω → Nat) (s : QueryStream ω β) : Prop where
  /-- The source has not been cancelled. -/
  cancels_eq : cancels s.world = 0
  /-- It is closed. -/
  source_closed : s.source.closed = true
  /-- The iteration has ended. -/
  position_eq : s.position = .finished

variable {h : Handler ω β ι} {cancels : ω → Nat} {s t : QueryStream ω β}

/-- What is known of a stream whose source has not reported its end depends on its flags and on the
count only. -/
lemma Unended.congr (hs : s.Unended cancels) (hclosed : t.closed = s.closed)
    (hsource : t.source.closed = s.source.closed)
    (hcancels : cancels t.world = cancels s.world) : t.Unended cancels where
  cancels_iff := by
    rw [hcancels, hclosed]
    exact hs.cancels_iff
  source_open hopen := by
    rw [hsource]
    exact hs.source_open (hclosed ▸ hopen)

/-- A batch that arrives is tracked, and cancels nothing. -/
lemma Unended.arrive (hs : s.Unended cancels) (b : β) (rest : List (Delivery β)) :
    Unended cancels { s with
      source := { s.source with pending := rest }
      acquired := s.acquired ++ [(s.arrived, b)]
      arrived := s.arrived + 1 } :=
  hs.congr rfl rfl rfl

/-- A closed stream whose source has not reported its end has cancelled it. -/
lemma unended_of_closed (hclosed : s.closed = true) (hcancels : 0 < cancels s.world) :
    s.Unended cancels where
  cancels_iff := ⟨fun _ => hclosed, fun _ => hcancels⟩
  source_open hopen := by
    rw [hclosed] at hopen
    cases hopen

/-- The two kinds of streams exclude each other. -/
lemma Exhausted.not_unended (hs : s.Exhausted cancels) : ¬ s.Unended cancels := by
  intro hunended
  have hclosed : s.closed = true ∨ s.closed = false := by cases s.closed <;> simp
  rcases hclosed with hclosed | hopen
  · have hpos := hunended.cancels_iff.2 hclosed
    rw [hs.cancels_eq] at hpos
    exact absurd hpos (Nat.lt_irrefl 0)
  · have hsource := hunended.source_open hopen
    rw [hs.source_closed] at hsource
    cases hsource

/-- Closing the source changes the source and leaves notices. -/
lemma exists_closeSource (h : Handler ω β ι) (s : QueryStream ω β) :
    ∃ faults source notices w,
      closeSource h s = (faults, { s with source, notices, world := w }) := by
  unfold closeSource
  rcases h.closeSource s.source s.world with ⟨first | _, source, w⟩
  · simp only
    rcases h.closeSource source w with ⟨second | _, source', w'⟩
    · exact ⟨_, _, _, _, rfl⟩
    · exact ⟨_, _, _, _, rfl⟩
  · exact ⟨_, _, _, _, rfl⟩

section Steps

variable (hh : h.Cancels cancels)

include hh

/-! ## Closing -/

/-- A further attempt does not undo an earlier one. -/
lemma le_cancels_closeSource (source : Source β) (w : ω) :
    cancels w ≤ cancels (h.closeSource source w).2.2 := by
  cases hclosed : source.closed with
  | true => exact Nat.le_of_eq (by rw [hh.ended source w hclosed])
  | false =>
    rw [hh.cancelled source w hclosed]
    exact Nat.le_succ _

/-- Closing an open source cancels it. -/
lemma pos_cancels_closeSource (hsource : s.source.closed = false) :
    0 < cancels (closeSource h s).2.world := by
  have hfirst := hh.cancelled s.source s.world hsource
  unfold closeSource
  rcases hclose : h.closeSource s.source s.world with ⟨_ | _, source, w⟩
  · have hsecond := le_cancels_closeSource hh source w
    rw [hclose] at hfirst
    have hpos : 0 < cancels (h.closeSource source w).2.2 := by
      have hone : cancels w = cancels s.world + 1 := hfirst
      omega
    simp only
    split
    · next hagain =>
      rw [hagain] at hpos
      exact hpos
    · next hagain =>
      rw [hagain] at hpos
      exact hpos
  · rw [hclose] at hfirst
    have hone : cancels w = cancels s.world + 1 := hfirst
    show 0 < cancels w
    omega

/-- Closing a source that has ended does nothing. -/
lemma closeSource_of_ended (hsource : s.source.closed = true) : closeSource h s = ([], s) := by
  simp only [closeSource, hh.ended s.source s.world hsource]

/-- Releasing batches does not cancel the source. -/
lemma cancels_releaseAll (bs : List (Nat × β)) (w : ω) :
    cancels (releaseAll h bs w).2 = cancels w := by
  induction bs generalizing w with
  | nil => rfl
  | cons e rest ih =>
    have hrelease := hh.releaseBatch e.2 w
    simp only [releaseAll]
    rcases hresult : h.releaseBatch e.2 w with ⟨_ | _, w'⟩
    · rw [hresult] at hrelease
      exact (ih w').trans hrelease
    · rw [hresult] at hrelease
      exact (ih w').trans hrelease

/-- **Closing a stream** closes its source, and cancels nothing besides. -/
lemma exists_closeWithin (hopen : s.closed = false) : ∃ result acquired notices w,
    closeWithin h s = (result, { s with
      source := (closeSource h { s with closed := true }).2.source
      acquired
      closed := true
      notices
      world := w }) ∧
    cancels w = cancels (closeSource h { s with closed := true }).2.world := by
  obtain ⟨faults, source, notices, w, hclose⟩ := exists_closeSource h { s with closed := true }
  have hback := hh.callback w
  simp only [closeWithin, hopen, Bool.false_eq_true, if_false, hclose]
  rcases hcallback : h.callback w with ⟨_ | _, w'⟩
  · rw [hcallback] at hback
    exact ⟨_, _, _, w', rfl, hback⟩
  · rw [hcallback] at hback
    have hall := cancels_releaseAll hh s.acquired w'
    rcases hreleases : releaseAll h s.acquired w' with ⟨batchFaults, w''⟩
    rw [hreleases] at hall
    simp only [hreleases]
    split
    · exact ⟨_, _, _, w'', rfl, hall.trans hback⟩
    · exact ⟨_, _, _, w'', rfl, hall.trans hback⟩

/-- **Closing a stream before its source has reported its end** cancels the source. -/
lemma Unended.closeWithin (hs : s.Unended cancels) :
    (closeWithin h s).2.Unended cancels ∧ (QueryStream.closeWithin h s).2.closed = true := by
  cases hclosed : s.closed with
  | true =>
    rw [closeWithin_of_closed h hclosed]
    exact ⟨hs, hclosed⟩
  | false =>
    obtain ⟨result, acquired, notices, w, hclose, hcancels⟩ := exists_closeWithin hh hclosed
    have hpos := pos_cancels_closeSource (s := { s with closed := true }) hh
      (hs.source_open hclosed)
    rw [← hcancels] at hpos
    rw [hclose]
    exact ⟨unended_of_closed rfl hpos, rfl⟩

/-- **Closing a stream after its source has reported its end** cancels nothing. -/
lemma Exhausted.closeWithin (hs : s.Exhausted cancels) :
    (closeWithin h s).2.Exhausted cancels := by
  cases hclosed : s.closed with
  | true =>
    rw [closeWithin_of_closed h hclosed]
    exact hs
  | false =>
    obtain ⟨result, acquired, notices, w, hclose, hcancels⟩ := exists_closeWithin hh hclosed
    have hended := closeSource_of_ended (s := { s with closed := true }) hh hs.source_closed
    rw [hended] at hclose hcancels
    rw [hclose]
    exact ⟨hcancels.trans hs.cancels_eq, hs.source_closed, hs.position_eq⟩

/-! ## Steps of a call -/

/-- Releasing a batch does not touch the source. -/
lemma Unended.release (hs : s.Unended cancels) (number : Nat) (b : β) :
    (release h number b s).2.Unended cancels ∧
      (QueryStream.release h number b s).2.closed = s.closed := by
  have hback := hh.callback s.world
  unfold QueryStream.release
  split
  · exact ⟨hs, rfl⟩
  · split
    · next hcallback =>
      rw [hcallback] at hback
      exact ⟨hs.congr rfl rfl hback, rfl⟩
    · next w hcallback =>
      rw [hcallback] at hback
      exact ⟨hs.congr rfl rfl ((hh.releaseBatch b w).trans hback), rfl⟩

/-- **The steps of a batch** do not read on. A decoder may close the stream, which cancels the
source. -/
lemma Unended.runSteps {count : β → Nat} {step : β → Nat → ω → DecodeStep ι × List Notice × ω}
    (hsteps : h.decoding = .steps count step) (hs : s.Unended cancels) (number : Nat) (b : β)
    (left i : Nat) :
    (runSteps h step number b left i s).2.Unended cancels ∧
      (s.closed = true → (QueryStream.runSteps h step number b left i s).2.closed = true) := by
  induction left generalizing i s with
  | zero =>
    have hreleased := hs.release hh number b
    simp only [QueryStream.runSteps]
    rcases hresult : QueryStream.release h number b s with ⟨_ | _, t⟩ <;>
      rw [hresult] at hreleased
    · exact ⟨hreleased.1.congr rfl rfl rfl, fun hc => hreleased.2.trans hc⟩
    · exact ⟨hreleased.1.congr rfl rfl rfl, fun hc => hreleased.2.trans hc⟩
  | succ left ih =>
    have hkept := hh.step count step hsteps b i s.world
    simp only [QueryStream.runSteps]
    rcases hresult : step b i s.world with ⟨result, notices, w⟩
    rw [hresult] at hkept
    cases result with
    | item x => exact ⟨hs.congr rfl rfl hkept, id⟩
    | fail fault => exact ⟨hs.congr rfl rfl hkept, id⟩
    | close =>
      have hstepped : Unended cancels { s with world := w, notices := s.notices ++ notices } :=
        hs.congr rfl rfl hkept
      have hended := hstepped.closeWithin hh
      simp only
      rcases hclose : QueryStream.closeWithin h { s with
        world := w
        notices := s.notices ++ notices } with ⟨_ | _, t⟩ <;> rw [hclose] at hended
      · exact ⟨hended.1.congr rfl rfl rfl, fun _ => hended.2⟩
      · obtain ⟨hrun, hstays⟩ := ih hended.1 (i + 1)
        exact ⟨hrun, fun _ => hstays hended.2⟩

/-! ## Pulling -/

/-- The end of the source is reported to an open stream, and nothing is cancelled then. -/
lemma Unended.exhausted_atEnd (hs : s.Unended cancels) (hopen : s.closed = false) :
    (atEnd h s).2.Exhausted cancels := by
  have hnone : cancels s.world = 0 := by
    have hnot : ¬ 0 < cancels s.world := by simp [hs.cancels_iff, hopen]
    omega
  have hended : Exhausted cancels
      { s with source := { s.source with closed := true }, position := .finished } :=
    ⟨hnone, rfl, rfl⟩
  have hclose := hended.closeWithin hh
  simp only [QueryStream.atEnd, finish]
  cases h.decoding with
  | raw item => exact hended
  | steps count step =>
    simp only
    rcases hresult : QueryStream.closeWithin h
      { s with source := { s.source with closed := true }, position := .finished } with
      ⟨_ | _, t⟩ <;> rw [hresult] at hclose
    · exact hclose
    · exact hclose

omit hh in
/-- A stream that has been closed does nothing at the end of its source. -/
lemma Unended.atEnd (hs : s.Unended cancels) (hclosed : s.closed = true) :
    (atEnd h s).2.Unended cancels := by
  have hclose := closeWithin_of_closed h (s :=
    { s with source := { s.source with closed := true }, position := .finished }) hclosed
  have hpos := hs.cancels_iff.2 hclosed
  simp only [QueryStream.atEnd, finish]
  cases h.decoding with
  | raw item => exact unended_of_closed hclosed hpos
  | steps count step =>
    simp only [hclose]
    exact unended_of_closed hclosed hpos

/-- A batch arrives, perhaps after somebody else has closed the stream. -/
lemma Unended.exists_arrival (hs : s.Unended cancels) (d : Delivery β) : ∃ result t,
    (if d.closing then QueryStream.closeWithin h s else (.ok (), s)) = (result, t) ∧
      t.Unended cancels ∧ (t.closed = false → t = s ∧ d.closing = false) := by
  cases hclosing : d.closing with
  | false => exact ⟨.ok (), s, rfl, hs, fun _ => ⟨rfl, rfl⟩⟩
  | true =>
    have hended := hs.closeWithin hh
    rcases hclose : QueryStream.closeWithin h s with ⟨result, t⟩
    rw [hclose] at hended
    refine ⟨result, t, rfl, hended.1, fun hopen => ?_⟩
    rw [hended.2] at hopen
    cases hopen

/-- **Pulling** comes to the end of the source, or does not, and the source is cancelled if the
stream is closed meanwhile.

**Proof sketch.** Induction on the batches that are pending. As long as the stream is open, the call
waits for its source before each of them; once it has been closed, its source reports nothing. -/
lemma Unended.pull (hs : s.closed = false) (ht : t.Unended cancels)
    {pending : List (Delivery β)} (hwaits : t.closed = false → Waits h s pending t) :
    (pull h pending t).2.Unended cancels ∨
      (QueryStream.pull h pending t).2.Exhausted cancels ∧ ReadsEnd h s := by
  induction pending generalizing t with
  | nil =>
    cases hclosed : t.closed with
    | true =>
      simp only [QueryStream.pull]
      split
      · exact .inl (ht.congr rfl rfl rfl)
      · exact .inl (ht.atEnd hclosed)
    | false =>
      have hsource := ht.source_open hclosed
      simp only [QueryStream.pull, hsource]
      cases hfailure : t.source.failure with
      | some fault => exact .inl (ht.congr rfl rfl rfl)
      | none =>
        exact .inr ⟨ht.exhausted_atEnd hh hclosed, hs, t, hwaits hclosed, hclosed, hsource,
          hfailure⟩
  | cons d rest ih =>
    simp only [QueryStream.pull]
    split
    · next hsource =>
      have hclosed : t.closed = true := by
        by_contra hopen
        have hopen := ht.source_open (by simpa using hopen)
        rw [hsource] at hopen
        cases hopen
      exact .inl (ht.atEnd hclosed)
    · next hsource =>
      obtain ⟨result, u, hresult, hu, hquiet⟩ := ht.exists_arrival hh d
      rw [hresult]
      rcases result with fault | _
      · exact .inl (hu.congr rfl rfl rfl)
      · simp only
        cases hmode : h.decoding with
        | raw item => exact .inl (hu.congr rfl rfl rfl)
        | steps count step =>
          have hran := (hu.arrive d.batch rest).runSteps hh hmode u.arrived d.batch
            (count d.batch) 0
          simp only
          rcases hrun : QueryStream.runSteps h step u.arrived d.batch (count d.batch) 0 { u with
            source := { u.source with pending := rest }
            acquired := u.acquired ++ [(u.arrived, d.batch)]
            arrived := u.arrived + 1 } with ⟨_ | outcome, v⟩ <;> rw [hrun] at hran
          · refine ih hran.1 fun hopen => ?_
            have huopen : u.closed = false := by
              by_contra hclosed
              have hv : v.closed = true := hran.2 (by simpa using hclosed)
              rw [hopen] at hv
              cases hv
            obtain ⟨rfl, hclosing⟩ := hquiet huopen
            exact .pulled hmode (hwaits huopen) (by simpa using hsource) hclosing hrun
          · exact .inl hran.1

/-! ## Calls -/

/-- **A call for the next item** comes to the end of the source, or does not, and the source is
cancelled if the stream is closed meanwhile. -/
theorem Unended.next (hs : s.Unended cancels) :
    (next h s).2.Unended cancels ∨
      (QueryStream.next h s).2.Exhausted cancels ∧ ReadsEnd h s := by
  cases hclosed : s.closed with
  | true =>
    rw [next_of_closed h s hclosed]
    exact .inl hs
  | false =>
    have hopen : ¬ s.closed = true := by simp [hclosed]
    rw [QueryStream.next, if_neg hopen]
    cases hposition : s.position with
    | finished => exact .inl hs
    | between => exact hs.pull hh hclosed fun _ => .start hposition
    | within number b i =>
      cases hmode : h.decoding with
      | raw item => exact .inl hs
      | steps count step =>
        have hran := hs.runSteps hh hmode number b (count b - i) i
        simp only
        rcases hrun : QueryStream.runSteps h step number b (count b - i) i s with
          ⟨_ | outcome, t⟩ <;> rw [hrun] at hran
        · exact hran.1.pull hh hclosed fun _ => .resumed hmode hposition hrun
        · exact .inl hran.1

/-- Where a call waits for its source, nothing has been cancelled if the stream is open. -/
lemma Unended.waits (hs : s.Unended cancels) {pending : List (Delivery β)}
    (ht : Waits h s pending t) : t.Unended cancels := by
  induction ht with
  | start _ => exact hs
  | @resumed count _ number b i _ hsteps _ hrun =>
    have hran := hs.runSteps hh hsteps number b (count b - i) i
    rw [hrun] at hran
    exact hran.1
  | @pulled count _ d rest t _ hsteps _ _ _ hrun ih =>
    have hran := (ih.arrive d.batch rest).runSteps hh hsteps t.arrived d.batch (count d.batch) 0
    rw [hrun] at hran
    exact hran.1

/-- A call that comes to the end of the source exhausts the stream. -/
lemma Unended.exhausted_next (hs : s.Unended cancels) (hend : ReadsEnd h s) :
    (QueryStream.next h s).2.Exhausted cancels := by
  obtain ⟨hopen, t, hwaits, htopen, hsource, hfailure⟩ := hend
  rw [hwaits.next_eq hopen]
  simp only [QueryStream.pull, hsource, hfailure]
  exact (hs.waits hh hwaits).exhausted_atEnd hh htopen

/-- A call of an exhausted stream cancels nothing. -/
lemma Exhausted.after (hs : s.Exhausted cancels) (call : Call) :
    (after h s call).Exhausted cancels := by
  cases call with
  | next =>
    have hnext : QueryStream.next h s = (.stop, s) := by
      simp only [QueryStream.next, hs.position_eq, ite_self]
    rw [QueryStream.after, hnext]
    exact hs
  | close =>
    rw [QueryStream.after, close]
    split
    · exact hs
    · exact Exhausted.closeWithin hh ⟨hs.cancels_eq, hs.source_closed, rfl⟩

/-- Calls of an exhausted stream cancel nothing. -/
lemma Exhausted.run (hs : s.Exhausted cancels) (calls : List Call) :
    (run h s calls).Exhausted cancels := by
  induction calls generalizing s with
  | nil => exact hs
  | cons call calls ih => exact ih (hs.after hh call)

/-- A call of a stream whose source has not reported its end. -/
lemma Unended.after (hs : s.Unended cancels) (call : Call) :
    (after h s call).Unended cancels ∨
      (QueryStream.after h s call).Exhausted cancels ∧ call = .next ∧ ReadsEnd h s := by
  cases call with
  | next => exact (hs.next hh).imp id fun hend => ⟨hend.1, rfl, hend.2⟩
  | close =>
    rw [QueryStream.after, close]
    split
    · exact .inl hs
    · have hfinished : Unended cancels { s with position := .finished } := hs.congr rfl rfl rfl
      exact .inl (hfinished.closeWithin hh).1

omit hh in
/-- The end is read in the first call or in one of the others. -/
lemma endRead_cons {call : Call} {calls : List Call} :
    EndRead h s (call :: calls) ↔
      call = .next ∧ ReadsEnd h s ∨ EndRead h (QueryStream.after h s call) calls := by
  constructor
  · rintro ⟨_ | ⟨first, before⟩, rest, heq, hend⟩
    · obtain ⟨rfl, rfl⟩ := List.cons.inj heq
      exact .inl ⟨rfl, hend⟩
    · obtain ⟨rfl, rfl⟩ := List.cons.inj heq
      exact .inr ⟨before, rest, rfl, hend⟩
  · rintro (⟨rfl, hend⟩ | ⟨before, rest, rfl, hend⟩)
    · exact ⟨[], calls, rfl, hend⟩
    · exact ⟨call :: before, rest, rfl, hend⟩

/-- **Calls** read the end, or they do not, and the source is cancelled if the stream is closed
meanwhile.

**Proof sketch.** Induction on the calls, with `Unended.after`. Once the end has been read,
nothing is cancelled any more (`Exhausted.run`). -/
theorem Unended.run (hs : s.Unended cancels) (calls : List Call) :
    (run h s calls).Unended cancels ∧ ¬ EndRead h s calls ∨
      (QueryStream.run h s calls).Exhausted cancels ∧ EndRead h s calls := by
  induction calls generalizing s with
  | nil =>
    refine .inl ⟨hs, ?_⟩
    rintro ⟨before, rest, heq, -⟩
    exact absurd heq.symm (List.append_ne_nil_of_right_ne_nil before (List.cons_ne_nil _ _))
  | cons call calls ih =>
    rw [endRead_cons]
    rcases hs.after hh call with hafter | ⟨hafter, hnext, hend⟩
    · have hnot : ¬ (call = .next ∧ ReadsEnd h s) := by
        rintro ⟨rfl, hend⟩
        exact (hs.exhausted_next hh hend).not_unended hafter
      refine (ih hafter).imp (And.imp_right fun hrest => ?_) (And.imp_right .inr)
      rintro (hend | hend)
      · exact hnot hend
      · exact hrest hend
    · exact .inr ⟨hafter.run hh calls, .inl ⟨hnext, hend⟩⟩

/-- **A stream cancels its source if and only if it is closed before the source has reported its
end.** -/
theorem cancels_iff (source : Source β) (hsource : source.closed = false) (w : ω)
    (hw : cancels w = 0) (calls : List Call) :
    0 < cancels (run h (new source w) calls).world ↔
      (run h (new source w) calls).closed = true ∧ ¬ EndRead h (new source w) calls := by
  have hnew : Unended cancels (new source w) := by
    refine ⟨?_, fun _ => hsource⟩
    show 0 < cancels w ↔ false = true
    simp [hw]
  rcases hnew.run hh calls with ⟨hs, hend⟩ | ⟨hs, hend⟩
  · rw [hs.cancels_iff]
    exact ⟨fun hclosed => ⟨hclosed, hend⟩, And.left⟩
  · rw [hs.cancels_eq]
    exact ⟨fun hpos => absurd hpos (Nat.lt_irrefl 0), fun hclosed => absurd hend hclosed.2⟩

end Steps

end QueryStream

end SeriesClient
