import SeriesClient.Proofs.Result
import SeriesClient.Stream.Basic

set_option relaxedAutoImplicit false
set_option autoImplicit false

/-!
# Records of streams

A stream can keep a record of what it did to its source and its batches. A stream with a
record does the same as one without.

## Main definitions

* `SeriesClient.StreamRecord` — what a stream did.
* `SeriesClient.releasesOf` — the batches whose release was attempted.
* `SeriesClient.Handler.recorded` — a handler that keeps a record.
* `SeriesClient.QueryStream.Call`, `SeriesClient.QueryStream.run` — calls one after the other.

## Main results

* `SeriesClient.QueryStream.erase_next`, `SeriesClient.QueryStream.erase_close` — keeping a
  record changes nothing else.
* `SeriesClient.QueryStream.erase_run` — the same for any number of calls.
-/

namespace SeriesClient

variable {ω β ι : Type}

/-! ## Handlers -/

/-- What a stream did. -/
inductive StreamRecord (β : Type) where
  /-- It tried to close its source. -/
  | closedSource (result : Except Fault Unit)
  /-- It tried to release a batch. -/
  | released (b : β) (result : Except Fault Unit)
  /-- It called back. -/
  | calledBack (result : Except Fault Unit)

/-- The batches whose release was attempted, in order. -/
def releasesOf (records : List (StreamRecord β)) : List β :=
  records.filterMap fun
    | .released b _ => some b
    | _ => none

/-- Releases are attempted one after the other. -/
@[simp]
lemma releasesOf_append (records records' : List (StreamRecord β)) :
    releasesOf (records ++ records') = releasesOf records ++ releasesOf records' :=
  List.filterMap_append

/-- A step of a decoder next to a record. -/
def Decoding.recordedStep (step : β → Nat → ω → DecodeStep ι × List Notice × ω) (b : β) (i : Nat)
    (w : Recorded ω (StreamRecord β)) :
    DecodeStep ι × List Notice × Recorded ω (StreamRecord β) :=
  let (result, notices, world) := step b i w.world
  (result, notices, { w with world })

/-- Decoding next to a record. -/
def Decoding.recorded : Decoding ω β ι → Decoding (Recorded ω (StreamRecord β)) β ι
  | .raw item => .raw item
  | .steps count step => .steps count (recordedStep step)

/-- A handler that keeps a record. -/
def Handler.recorded (h : Handler ω β ι) : Handler (Recorded ω (StreamRecord β)) β ι where
  closeSource source w :=
    let (result, source, world) := h.closeSource source w.world
    (result, source, ⟨world, w.records ++ [.closedSource result]⟩)
  releaseBatch b w :=
    let (result, world) := h.releaseBatch b w.world
    (result, ⟨world, w.records ++ [.released b result]⟩)
  callback w :=
    let (result, world) := h.callback w.world
    (result, ⟨world, w.records ++ [.calledBack result]⟩)
  decoding := h.decoding.recorded

namespace Handler

variable (h : Handler ω β ι) {w : Recorded ω (StreamRecord β)} {result : Except Fault Unit}
  {world : ω}

/-- An attempt to close the source, next to a record. -/
lemma recorded_closeSource {source source' : Source β}
    (hc : h.closeSource source w.world = (result, source', world)) :
    h.recorded.closeSource source w =
      (result, source', ⟨world, w.records ++ [.closedSource result]⟩) := by
  simp only [recorded, hc]

/-- An attempt to release a batch, next to a record. -/
lemma recorded_releaseBatch {b : β} (hr : h.releaseBatch b w.world = (result, world)) :
    h.recorded.releaseBatch b w = (result, ⟨world, w.records ++ [.released b result]⟩) := by
  simp only [recorded, hr]

/-- A call back, next to a record. -/
lemma recorded_callback (hc : h.callback w.world = (result, world)) :
    h.recorded.callback w = (result, ⟨world, w.records ++ [.calledBack result]⟩) := by
  simp only [recorded, hc]

/-- Batches are handed out as they are, next to a record. -/
lemma recorded_raw {item : β → ι} (hraw : h.decoding = .raw item) :
    h.recorded.decoding = .raw item := by
  rw [recorded, hraw]
  rfl

/-- The steps of a decoder are made next to a record. -/
lemma recorded_steps {count : β → Nat} {step : β → Nat → ω → DecodeStep ι × List Notice × ω}
    (hsteps : h.decoding = .steps count step) :
    h.recorded.decoding = .steps count (Decoding.recordedStep step) := by
  rw [recorded, hsteps]
  rfl

end Handler

namespace QueryStream

/-! ## Calls -/

/-- A call that whoever reads a stream makes. -/
inductive Call where
  | next
  | close
  deriving DecidableEq, Repr

/-- The stream after a call. -/
def after (h : Handler ω β ι) (s : QueryStream ω β) : Call → QueryStream ω β
  | .next => (next h s).2
  | .close => (close h s).2

/-- The stream after calls one after the other. -/
def run (h : Handler ω β ι) (s : QueryStream ω β) (calls : List Call) : QueryStream ω β :=
  calls.foldl (after h) s

/-! ## Streams without their record -/

/-- The stream without its record. -/
def erase (s : QueryStream (Recorded ω (StreamRecord β)) β) : QueryStream ω β :=
  ⟨s.source, s.acquired, s.arrived, s.closed, s.position, s.notices, s.world.world⟩

variable (h : Handler ω β ι)

/-- Closing the source is the same without the record. -/
lemma erase_closeSource (s : QueryStream (Recorded ω (StreamRecord β)) β) :
    closeSource h s.erase =
      ((closeSource h.recorded s).1, (closeSource h.recorded s).2.erase) := by
  simp only [closeSource, erase]
  rcases hfirst : h.closeSource s.source s.world.world with ⟨_ | _, source, world⟩
  · rw [h.recorded_closeSource hfirst]
    simp only
    rcases hsecond : h.closeSource source world with ⟨_ | _, source', world'⟩ <;>
      rw [h.recorded_closeSource hsecond]
  · rw [h.recorded_closeSource hfirst]

/-- Releasing batches is the same without the record. -/
lemma erase_releaseAll (bs : List (Nat × β)) (w : Recorded ω (StreamRecord β)) :
    releaseAll h bs w.world =
      ((releaseAll h.recorded bs w).1, (releaseAll h.recorded bs w).2.world) := by
  induction bs generalizing w with
  | nil => rfl
  | cons e rest ih =>
    simp only [releaseAll]
    rcases hrelease : h.releaseBatch e.2 w.world with ⟨_ | _, world⟩
    · rw [h.recorded_releaseBatch hrelease]
      have hrest := ih ⟨world, w.records ++ [.released e.2 (.error ‹_›)]⟩
      simp only [hrest]
    · rw [h.recorded_releaseBatch hrelease]
      exact ih ⟨world, w.records ++ [.released e.2 (.ok ())]⟩

/-- Closing is the same without the record. -/
lemma erase_closeWithin (s : QueryStream (Recorded ω (StreamRecord β)) β) :
    closeWithin h s.erase =
      ((closeWithin h.recorded s).1, (closeWithin h.recorded s).2.erase) := by
  have hclosed : s.erase.closed = s.closed := rfl
  have hsource := erase_closeSource h { s with closed := true }
  have hshut : { s.erase with closed := true } = erase { s with closed := true } := rfl
  simp only [closeWithin, hclosed, hshut, hsource]
  split
  · rfl
  · rcases closeSource h.recorded { s with closed := true } with ⟨faults, t⟩
    simp only [erase]
    rcases hback : h.callback t.world.world with ⟨_ | _, world⟩
    · rw [h.recorded_callback hback]
    · rw [h.recorded_callback hback]
      have hall := erase_releaseAll h t.acquired ⟨world, t.world.records ++ [.calledBack (.ok ())]⟩
      simp only [hall]
      generalize releaseAll h.recorded t.acquired
        ⟨world, t.world.records ++ [.calledBack (.ok ())]⟩ = all
      cases faults ++ all.1 <;> rfl

/-- Closing is the same without the record. -/
theorem erase_close (s : QueryStream (Recorded ω (StreamRecord β)) β) :
    close h s.erase = ((close h.recorded s).1, (close h.recorded s).2.erase) := by
  have hclosed : s.erase.closed = s.closed := rfl
  simp only [close, hclosed]
  split
  · rfl
  · exact erase_closeWithin h { s with position := .finished }

/-- Releasing a batch is the same without the record. -/
lemma erase_release (number : Nat) (b : β) (s : QueryStream (Recorded ω (StreamRecord β)) β) :
    release h number b s.erase =
      ((release h.recorded number b s).1, (release h.recorded number b s).2.erase) := by
  simp only [release, erase]
  cases untrack? number s.acquired with
  | none => rfl
  | some acquired =>
    rcases hback : h.callback s.world.world with ⟨_ | _, world⟩
    · simp only [h.recorded_callback hback]
    · simp only [h.recorded_callback hback]
      have hrecorded := h.recorded_releaseBatch (b := b)
        (w := ⟨world, s.world.records ++ [.calledBack (.ok ())]⟩) (Prod.eta _).symm
      simp only [hrecorded]

/-- The steps of a batch are the same without the record. -/
lemma erase_runSteps (step : β → Nat → ω → DecodeStep ι × List Notice × ω) (number : Nat) (b : β)
    (count i : Nat) (s : QueryStream (Recorded ω (StreamRecord β)) β) :
    runSteps h step number b count i s.erase =
      ((runSteps h.recorded (Decoding.recordedStep step) number b count i s).1,
        (runSteps h.recorded (Decoding.recordedStep step) number b count i s).2.erase) := by
  induction count generalizing i s with
  | zero =>
    simp only [runSteps, erase_release]
    rcases release h.recorded number b s with ⟨_ | _, t⟩ <;> rfl
  | succ count ih =>
    have hworld : s.erase.world = s.world.world := rfl
    simp only [runSteps, Decoding.recordedStep, hworld]
    rcases step b i s.world.world with ⟨result, notices, world⟩
    cases result with
    | item x => rfl
    | fail fault => rfl
    | close =>
      have hshut := erase_closeWithin h
        { s with world := { s.world with world }, notices := s.notices ++ notices }
      simp only [erase] at hshut ⊢
      rw [hshut]
      rcases closeWithin h.recorded
        { s with world := { s.world with world }, notices := s.notices ++ notices }
        with ⟨_ | _, t⟩
      · rfl
      · exact ih (i + 1) t

/-- The end of the source is the same without the record. -/
lemma erase_atEnd (s : QueryStream (Recorded ω (StreamRecord β)) β) :
    atEnd h s.erase = ((atEnd h.recorded s).1, (atEnd h.recorded s).2.erase) := by
  have hdecoding : h.recorded.decoding = h.decoding.recorded := rfl
  have hend := erase_closeWithin h
    { s.finish with source := { s.source with closed := true } }
  simp only [atEnd, hdecoding]
  cases h.decoding with
  | raw item => rfl
  | steps count step =>
    simp only [finish, erase] at hend ⊢
    rw [hend]
    simp only [Decoding.recorded]
    generalize closeWithin h.recorded
      { s with source := { s.source with closed := true }, position := .finished } = shut
    rcases shut with ⟨_ | _, t⟩ <;> rfl

/-- Pulling batches is the same without the record. -/
lemma erase_pull (ds : List (Delivery β)) (s : QueryStream (Recorded ω (StreamRecord β)) β) :
    pull h ds s.erase = ((pull h.recorded ds s).1, (pull h.recorded ds s).2.erase) := by
  induction ds generalizing s with
  | nil =>
    have hsource : s.erase.source = s.source := rfl
    simp only [pull, hsource]
    split
    · rfl
    · exact erase_atEnd h s
  | cons d rest ih =>
    have hsource : s.erase.source = s.source := rfl
    have hdecoding : h.recorded.decoding = h.decoding.recorded := rfl
    have hshut : (if d.closing then closeWithin h s.erase else (.ok (), s.erase)) =
        ((if d.closing then closeWithin h.recorded s else (.ok (), s)).1,
          (if d.closing then closeWithin h.recorded s else (.ok (), s)).2.erase) := by
      split
      · exact erase_closeWithin h s
      · rfl
    simp only [pull, hsource]
    split
    · exact erase_atEnd h s
    · rw [hshut]
      generalize (if d.closing then closeWithin h.recorded s else (.ok (), s)) = shut
      rcases shut with ⟨_ | _, t⟩
      · rfl
      · simp only [hdecoding]
        cases h.decoding with
        | raw item => rfl
        | steps count step =>
          have hsteps := erase_runSteps h step t.arrived d.batch (count d.batch) 0
            { t with
              source := { t.source with pending := rest }
              acquired := t.acquired ++ [(t.arrived, d.batch)]
              arrived := t.arrived + 1 }
          simp only [Decoding.recorded]
          simp only [erase] at hsteps ⊢
          rw [hsteps]
          generalize runSteps h.recorded (Decoding.recordedStep step) t.arrived d.batch
            (count d.batch) 0
            { t with
              source := { t.source with pending := rest }
              acquired := t.acquired ++ [(t.arrived, d.batch)]
              arrived := t.arrived + 1 } = steps
          rcases steps with ⟨_ | outcome, u⟩
          · exact ih u
          · rfl

/-- **The next item is the same without the record.** -/
theorem erase_next (s : QueryStream (Recorded ω (StreamRecord β)) β) :
    next h s.erase = ((next h.recorded s).1, (next h.recorded s).2.erase) := by
  have hclosed : s.erase.closed = s.closed := rfl
  have hposition : s.erase.position = s.position := rfl
  have hsource : s.erase.source = s.source := rfl
  have hdecoding : h.recorded.decoding = h.decoding.recorded := rfl
  simp only [next, hclosed, hposition, hsource, hdecoding]
  split
  · rfl
  · split
    · rfl
    · exact erase_pull h _ s
    · next number b i _ =>
      cases h.decoding with
      | raw item => rfl
      | steps count step =>
        simp only [Decoding.recorded]
        rw [erase_runSteps]
        generalize runSteps h.recorded (Decoding.recordedStep step) number b (count b - i) i s =
          steps
        rcases steps with ⟨_ | outcome, u⟩
        · exact erase_pull h _ u
        · rfl

/-- **Calls do the same without the record.** -/
theorem erase_run (s : QueryStream (Recorded ω (StreamRecord β)) β) (calls : List Call) :
    run h s.erase calls = (run h.recorded s calls).erase := by
  induction calls generalizing s with
  | nil => rfl
  | cons call calls ih =>
    have hcall : after h s.erase call = (after h.recorded s call).erase := by
      cases call with
      | next => rw [after, erase_next]; rfl
      | close => rw [after, erase_close]; rfl
    simp only [run, List.foldl_cons, hcall] at ih ⊢
    exact ih (after h.recorded s call)

end QueryStream

end SeriesClient
