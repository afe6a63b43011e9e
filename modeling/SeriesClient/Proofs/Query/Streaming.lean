import SeriesClient.Client.Query
import SeriesClient.Proofs.Batch.Shapes

set_option relaxedAutoImplicit false
set_option autoImplicit false

/-!
# Reading the results of a query

A stream of decoded rows reads its batches with one decoder, whose values it lets go after each
batch. What it hands out is what a new decoder would make of each row.

## Main definitions

* `SeriesClient.Decoder.IsReady` — a decoder that makes the rows of a batch that a new one makes.
* `SeriesClient.Batch.positions` — the rows of a batch.
* `SeriesClient.RowShape.freshRow` — what a new decoder makes of a row.
* `SeriesClient.QueryStream.upcoming` — the rows that a stream has still to hand out.
* `SeriesClient.QueryStream.HandsOut` — a call of `next` hands out the first of them.

## Main results

* `SeriesClient.QueryStream.Streaming.handsOut` — one call of `next`.
* `SeriesClient.QueryStream.Streaming.takeItems` — all of them.
* `SeriesClient.Client.rows_query` — the rows of a query.
* `SeriesClient.Decoder.decodeAll_new` — all rows of a batch at once.

## Design

The state of a stream stands for the list of rows that are left. A call of `next` takes one row
off it, whatever the decoder has kept.
-/

namespace SeriesClient

/-! ## Decoders -/

namespace Decoder

/-- A decoder with the columns of a batch in force, if it keeps values of the batch at all. -/
def IsReady (b : Batch) (d : Decoder) : Prop :=
  ∃ m, Keeps (fun _ => (b.schema, b.cells)) d m ∧
    (m.kept ≠ some b.number ∨ m.asked = some b.schema)

/-- A new decoder is ready for any batch. -/
lemma isReady_new (b : Batch) : new.IsReady b := ⟨_, keeps_new _, .inl nofun⟩

/-- A decoder that has let go of its values is ready for any batch. -/
lemma IsReady.release {b : Batch} {d : Decoder} (h : d.IsReady b) (b' : Batch) :
    d.release.IsReady b' := by
  obtain ⟨m, hkeeps, -⟩ := h
  exact ⟨{ m with kept := none }, ⟨hkeeps.schema_eq, hkeeps.columns_eq, rfl, nofun⟩, .inl nofun⟩

/-- A decoder that is ready for a batch makes the rows that a new one makes, and stays ready. -/
lemma IsReady.decode {b : Batch} {d : Decoder} (h : d.IsReady b) (shape : RowShape)
    (index : Int) :
    (d.decode shape b index).1.1 = (new.decode shape b index).1.1 ∧
      (d.decode shape b index).2.IsReady b := by
  obtain ⟨m, hkeeps, hown⟩ := h
  obtain ⟨hrow, hkeeps'⟩ := hkeeps.decode shape b.number index
  rw [Memory.inForce_own hown] at hrow
  refine ⟨hrow.trans (decode_new _ shape b.number index).symm, _, hkeeps', ?_⟩
  rw [Memory.after]
  split
  · exact hown
  · split
    · exact .inr rfl
    · exact .inr rfl

end Decoder

/-! ## Rows -/

/-- Some rows of a batch, in order. -/
def Batch.positionsFrom (b : Batch) (i count : Nat) : List (Batch × Nat) :=
  (List.range' i count).map fun i => (b, i)

/-- The rows of a batch, in order. -/
def Batch.positions (b : Batch) : List (Batch × Nat) := b.positionsFrom 0 b.rowCount

/-- What a new decoder makes of a row. -/
def RowShape.freshRow (shape : RowShape) (p : Batch × Nat) : Except Fault QueryItem :=
  (Decoder.new.decode shape p.1 p.2).1.1.map .row

/-- The first of some rows comes before the others. -/
lemma Batch.positionsFrom_succ (b : Batch) (i count : Nat) :
    b.positionsFrom i (count + 1) = (b, i) :: b.positionsFrom (i + 1) count := by
  simp [positionsFrom, List.range'_succ]

/-- Rows of a batch that are decoded by one decoder are those that new decoders make. -/
lemma Decoder.IsReady.decodeFrom {b : Batch} {d : Decoder} (h : d.IsReady b) (shape : RowShape)
    (i count : Nat) :
    ((Decoder.decodeFrom shape b count i d).1.1).map (List.map QueryItem.row) =
      (b.positionsFrom i count).mapM shape.freshRow := by
  induction count generalizing i d with
  | zero => rfl
  | succ count ih =>
    obtain ⟨hrow, hready⟩ := h.decode shape i
    rw [Batch.positionsFrom_succ, List.mapM_cons, RowShape.freshRow, ← hrow, Decoder.decodeFrom]
    rcases hdecode : d.decode shape b i with ⟨⟨fault | row, notices⟩, d'⟩
    · rfl
    · rw [hdecode] at hready
      rw [← ih hready]
      dsimp only
      rcases Decoder.decodeFrom shape b count (i + 1) d' with ⟨⟨_ | _, _⟩, _⟩
      · rfl
      · rfl

/-- All rows of a batch, decoded by one new decoder, are those that new decoders make. -/
theorem Decoder.decodeAll_new (shape : RowShape) (b : Batch) :
    ((Decoder.new.decodeAll shape b).1.1).map (List.map QueryItem.row) =
      b.positions.mapM shape.freshRow :=
  (isReady_new b).decodeFrom shape 0 b.rowCount

namespace QueryStream

/-- The rows that a stream has still to hand out. -/
def upcoming (s : QueryStream Reader Batch) : List (Batch × Nat) :=
  (match s.position with
    | .within _ b i => b.positionsFrom i (b.rowCount - i)
    | _ => []) ++ s.source.pending.flatMap fun d => d.batch.positions

/-- A stream that is open, over a source that does not fail. -/
structure Runs (s : QueryStream Reader Batch) : Prop where
  /-- The stream is open. -/
  opened : s.closed = false
  /-- So is its source. -/
  source_opened : s.source.closed = false
  /-- The source does not fail. -/
  no_failure : s.source.failure = none

/-- A stream between two batches. -/
structure Between (s : QueryStream Reader Batch) : Prop extends s.Runs where
  /-- No batch is tracked. -/
  acquired_eq : s.acquired = []
  /-- The decoder is ready for any batch. -/
  ready : ∀ b, s.world.decoder.IsReady b

/-- A stream inside a batch. -/
structure Within (s : QueryStream Reader Batch) (number : Nat) (b : Batch) : Prop
    extends s.Runs where
  /-- The batch alone is tracked. -/
  acquired_eq : s.acquired = [(number, b)]
  /-- The decoder is ready for the batch. -/
  ready : s.world.decoder.IsReady b

/-- Nobody else closes the stream while the batches that are left arrive. -/
def Undisturbed (s : QueryStream Reader Batch) : Prop :=
  ∀ d ∈ s.source.pending, d.closing = false

/-- A stream that hands out rows. -/
inductive Streaming (s : QueryStream Reader Batch) : Prop where
  /-- It is between two batches. -/
  | between (h : s.Between) (hrest : s.Undisturbed) (hposition : s.position = .between)
  /-- It is inside a batch. -/
  | within {number : Nat} {b : Batch} {i : Nat} (h : s.Within number b) (hrest : s.Undisturbed)
      (hposition : s.position = .within number b i)

/-- A stream that has handed out everything: it is closed with its source, and no batch is
tracked. -/
structure Finished (s : QueryStream Reader Batch) : Prop where
  /-- The stream is closed. -/
  closed : s.closed = true
  /-- So is its source. -/
  source_closed : s.source.closed = true
  /-- No batch is tracked. -/
  acquired_eq : s.acquired = []

/-- What a call of `next` comes to when some rows are left: it hands out the first of them, as a new
decoder makes it, and leaves the others; or it fails as the new decoder does. If there are none, it
ends the stream. -/
inductive HandsOut (shape : RowShape) :
    List (Batch × Nat) → Outcome QueryItem → QueryStream Reader Batch → Prop where
  /-- The first row is handed out. -/
  | item {p : Batch × Nat} {rest : List (Batch × Nat)} {item : QueryItem}
      {s : QueryStream Reader Batch} (hitem : shape.freshRow p = .ok item) (hs : s.Streaming)
      (hrest : s.upcoming = rest) : HandsOut shape (p :: rest) (.item item) s
  /-- The first row cannot be decoded. -/
  | fail {p : Batch × Nat} {rest : List (Batch × Nat)} {fault : Fault}
      {s : QueryStream Reader Batch} (hfault : shape.freshRow p = .error fault) :
      HandsOut shape (p :: rest) (.fail fault) s
  /-- No row is left. -/
  | stop {s : QueryStream Reader Batch} (hs : s.Finished) : HandsOut shape [] .stop s

/-- A stream after a batch has arrived. -/
def received (s : QueryStream Reader Batch) (b : Batch) (rest : List (Delivery Batch)) :
    QueryStream Reader Batch :=
  { s with
    source := { s.source with pending := rest }
    acquired := s.acquired ++ [(s.arrived, b)]
    arrived := s.arrived + 1 }

/-- A stream after a batch has been released. -/
def letGo (s : QueryStream Reader Batch) : QueryStream Reader Batch :=
  { s with
    acquired := []
    position := .between
    world := { s.world with decoder := s.world.decoder.release } }

/-- A stream after a row of a batch has been decoded. -/
def stepped (s : QueryStream Reader Batch) (number : Nat) (b : Batch) (i : Nat) (d : Decoder)
    (notices : List Notice) : QueryStream Reader Batch :=
  { s with
    position := .within number b i
    notices := s.notices ++ notices
    world := { s.world with decoder := d } }

/-- A stream after its source has come to its end. -/
def ended (s : QueryStream Reader Batch) : QueryStream Reader Batch :=
  { s with
    source := { s.source with closed := true }
    acquired := []
    closed := true
    position := .finished
    world := { s.world with decoder := s.world.decoder.release } }

variable {s : QueryStream Reader Batch} {number : Nat} {b : Batch}

/-- Rows are decoded one by one. -/
lemma decoding_rows (shape : RowShape) :
    (QueryShape.rows shape).handler.decoding = .steps Batch.rowCount (Reader.step shape) := rfl

/-- A batch without further rows is released, and the decoder lets go of its values. -/
lemma Within.runSteps_zero (h : s.Within number b) (shape : RowShape) (i : Nat) :
    runSteps (QueryShape.rows shape).handler (Reader.step shape) number b 0 i s =
        (none, s.letGo) ∧ s.letGo.Between := by
  have huntrack : untrack? number s.acquired = some [] := by
    rw [h.acquired_eq]
    simp [untrack?]
  refine ⟨?_, ⟨h.opened, h.source_opened, h.no_failure⟩, rfl, fun b' => h.ready.release b'⟩
  simp only [runSteps, release, huntrack, QueryShape.handler, Reader.release, letGo]

/-- The next row of a batch is handed out. -/
lemma Within.handsOut (h : s.Within number b) (hrest : s.Undisturbed) (shape : RowShape)
    {i count : Nat} (hcount : i + (count + 1) = b.rowCount) :
    ∃ outcome s',
      runSteps (QueryShape.rows shape).handler (Reader.step shape) number b (count + 1) i s =
        (some outcome, s') ∧
      HandsOut shape (b.positionsFrom i (count + 1) ++
        s.source.pending.flatMap fun d => d.batch.positions) outcome s' := by
  obtain ⟨hrow, hready⟩ := h.ready.decode shape i
  have hfresh : shape.freshRow (b, i) =
      (s.world.decoder.decode shape b i).1.1.map .row := by
    rw [RowShape.freshRow, hrow]
  rw [Batch.positionsFrom_succ, List.cons_append]
  rcases hdecode : s.world.decoder.decode shape b i with ⟨⟨fault | row, notices⟩, d⟩
  · rw [hdecode] at hfresh
    exact ⟨.fail fault, _, by simp only [runSteps, Reader.step, hdecode]; rfl, .fail hfresh⟩
  · rw [hdecode] at hfresh hready
    refine ⟨.item (.row row), s.stepped number b (i + 1) d notices, ?_, .item hfresh ?_ ?_⟩
    · simp only [runSteps, Reader.step, hdecode, stepped]
    · exact .within ⟨⟨h.opened, h.source_opened, h.no_failure⟩, h.acquired_eq, hready⟩ hrest rfl
    · have hleft : b.rowCount - (i + 1) = count := by omega
      simp only [upcoming, stepped, hleft]

/-- A stream whose source has come to its end closes itself. -/
lemma Between.atEnd (h : s.Between) (shape : RowShape) :
    QueryStream.atEnd (QueryShape.rows shape).handler s = (.stop, s.ended) ∧ s.ended.Finished := by
  refine ⟨?_, rfl, rfl, rfl⟩
  simp only [QueryStream.atEnd, QueryShape.handler, QueryShape.decoding, closeWithin, finish,
    h.opened, closeSource, Reader.closeSource, Reader.release, h.acquired_eq, releaseAll, ended,
    if_true, Bool.false_eq_true, if_false, List.append_nil]

/-- Batches are pulled up to the next row. -/
lemma Between.handsOut {ds : List (Delivery Batch)} (hds : ∀ d ∈ ds, d.closing = false)
    (h : s.Between) (shape : RowShape) :
    ∃ outcome s', pull (QueryShape.rows shape).handler ds s = (outcome, s') ∧
      HandsOut shape (ds.flatMap fun d => d.batch.positions) outcome s' := by
  induction ds generalizing s with
  | nil =>
    obtain ⟨hend, hfinished⟩ := h.atEnd shape
    refine ⟨.stop, s.ended, ?_, .stop hfinished⟩
    rw [pull, h.source_opened, h.no_failure, ← hend]
  | cons d rest ih =>
    obtain ⟨hopen, hrest⟩ := List.forall_mem_cons.mp hds
    have hacquired : (s.received d.batch rest).acquired = [(s.arrived, d.batch)] := by
      simp [received, h.acquired_eq]
    have hwithin : (s.received d.batch rest).Within s.arrived d.batch :=
      ⟨⟨h.opened, h.source_opened, h.no_failure⟩, hacquired, h.ready d.batch⟩
    rw [pull, if_neg (by rw [h.source_opened]; exact Bool.false_ne_true), hopen,
      if_neg Bool.false_ne_true, List.flatMap_cons, Batch.positions]
    simp only [decoding_rows]
    rcases hcount : d.batch.rowCount with _ | count
    · obtain ⟨hrun, hbetween⟩ := hwithin.runSteps_zero shape 0
      dsimp only [received] at hrun
      rw [hrun]
      exact ih hrest hbetween
    · obtain ⟨outcome, s', hrun, hhands⟩ :=
        hwithin.handsOut hrest shape (Nat.zero_add (count + 1) |>.trans hcount.symm)
      dsimp only [received] at hrun
      rw [hrun]
      exact ⟨outcome, s', rfl, hhands⟩

/-- **A call of `next` takes one row off those that are left.** -/
theorem Streaming.handsOut (h : s.Streaming) (shape : RowShape) :
    ∃ outcome s', next (QueryShape.rows shape).handler s = (outcome, s') ∧
      HandsOut shape s.upcoming outcome s' := by
  cases h with
  | between h hrest hposition =>
    obtain ⟨outcome, s', hpull, hhands⟩ := h.handsOut hrest shape
    refine ⟨outcome, s', ?_, ?_⟩
    · rw [next, h.opened, if_neg Bool.false_ne_true, hposition]
      exact hpull
    · rw [upcoming, hposition]
      exact hhands
  | @within number b i h hrest hposition =>
    rw [next, h.opened, if_neg Bool.false_ne_true, hposition, upcoming, hposition]
    simp only [decoding_rows]
    rcases hcount : b.rowCount - i with _ | count
    · obtain ⟨hrun, hbetween⟩ := h.runSteps_zero shape i
      rw [hrun]
      exact hbetween.handsOut hrest shape
    · obtain ⟨outcome, s', hrun, hhands⟩ :=
        h.handsOut hrest shape (show i + (count + 1) = b.rowCount by omega)
      rw [hrun]
      exact ⟨outcome, s', rfl, hhands⟩

/-- **Calls of `next` hand out the rows that are left**, as new decoders make them, up to some
number of them or up to the first that fails; if that number is more than there are, they end the
stream. -/
theorem Streaming.takeItems (h : s.Streaming) (shape : RowShape) (bound : Nat) :
    (QueryStream.takeItems (QueryShape.rows shape).handler bound s).1 =
        (s.upcoming.take bound).mapM shape.freshRow ∧
      (s.upcoming.length < bound → ∀ items,
        s.upcoming.mapM shape.freshRow = .ok items →
        (QueryStream.takeItems (QueryShape.rows shape).handler bound s).2.Finished) := by
  induction bound generalizing s with
  | zero => exact ⟨rfl, nofun⟩
  | succ bound ih =>
    obtain ⟨outcome, s', hnext, hhands⟩ := h.handsOut shape
    generalize s.upcoming = rows at hhands
    cases hhands with
    | stop hs =>
      rw [QueryStream.takeItems, hnext]
      exact ⟨rfl, fun _ _ _ => hs⟩
    | @fail p rest fault _ hfault =>
      rw [QueryStream.takeItems, hnext]
      refine ⟨?_, ?_⟩
      · rw [List.take_succ_cons, List.mapM_cons, hfault]
        rfl
      · intro _ items hitems
        rw [List.mapM_cons, hfault] at hitems
        nomatch hitems
    | @item p rest item _ hitem hs hrest =>
      obtain ⟨hitems, hfinished⟩ := ih hs
      rw [hrest] at hitems hfinished
      rw [QueryStream.takeItems, hnext]
      refine ⟨?_, ?_⟩
      · rw [List.take_succ_cons, List.mapM_cons, hitem, ← hitems]
        dsimp only
        rcases QueryStream.takeItems (QueryShape.rows shape).handler bound s' with ⟨_ | _, _⟩
        · rfl
        · rfl
      · intro hlength items hall
        rw [List.mapM_cons, hitem] at hall
        obtain ⟨_, hitem', hall⟩ := bind_eq_ok_iff.mp hall
        obtain ⟨items', hrest', -⟩ := bind_eq_ok_iff.mp hall
        exact hfinished (Nat.lt_of_succ_lt_succ hlength) items' hrest'

end QueryStream

/-! ## Queries -/

/-- The answer to the next query. -/
def Network.nextReader (net : Network) : ReaderScript :=
  net.readers.headD ⟨[], none, [], none⟩

/-- A query takes the next answer. -/
lemma Network.startQuery_fst (net : Network) (q : QueryCall) :
    (net.startQuery q).1 = net.nextReader := by
  unfold startQuery nextReader
  rcases hreaders : net.readers with _ | ⟨reader, rest⟩
  · simp only [emit, hreaders, List.headD_nil]
  · simp only [emit, hreaders, List.headD_cons]

/-- Making a connection leaves the answers to queries alone. -/
lemma Client.nextReader_connect (c : Client) (net : Network) :
    (c.connect net).2.2.nextReader = net.nextReader := by
  unfold connect
  split
  · rfl
  · split
    · rfl
    · rfl

/-- The stream of a query that has been started is that of the next answer. -/
lemma Client.stream_of_query {c : Client} {options : QueryOptions} {query params now : Value}
    {net : Network} {s : QueryStream Reader Batch} {rest : Client × Network}
    (h : c.query options query params now net = (.ok s, rest)) : s = net.nextReader.stream := by
  unfold Client.query at h
  split at h
  · nomatch congrArg Prod.fst h
  · next plan _ =>
    rw [← c.nextReader_connect net]
    unfold Client.start at h
    generalize c.connect net = connected at h ⊢
    rcases connected with ⟨fault | ⟨⟩, c', net'⟩
    · nomatch congrArg Prod.fst h
    · dsimp only at h ⊢
      split at h
      · nomatch congrArg Prod.fst h
      · next call _ =>
        rw [← net'.startQuery_fst call]
        generalize net'.startQuery call = started at h ⊢
        rcases started with ⟨script, net''⟩
        dsimp only at h ⊢
        split at h
        · nomatch congrArg Prod.fst h
        · exact (Except.ok.inj (congrArg Prod.fst h)).symm

/-- The rows of the batches of an answer, in order. -/
def ReaderScript.positions (script : ReaderScript) : List (Batch × Nat) :=
  script.batches.flatMap Batch.positions

/-- The stream of an answer that does not fail hands out the rows of its batches. -/
lemma ReaderScript.streaming_stream {script : ReaderScript} (h : script.failure = none) :
    script.stream.Streaming ∧ script.stream.upcoming = script.positions := by
  refine ⟨.between ⟨⟨rfl, rfl, h⟩, rfl, Decoder.isReady_new⟩ ?_ rfl, ?_⟩
  · intro d hd
    obtain ⟨b, -, rfl⟩ := List.mem_map.mp hd
    rfl
  · exact List.flatMap_map ..

/-- A row of an answer is a row of one of its batches. -/
lemma ReaderScript.of_mem_positions {script : ReaderScript} {p : Batch × Nat}
    (h : p ∈ script.positions) : p.1 ∈ script.batches ∧ p.2 < p.1.rowCount := by
  obtain ⟨b, hb, hp⟩ := List.mem_flatMap.mp h
  obtain ⟨i, hi, rfl⟩ := List.mem_map.mp hp
  obtain ⟨k, hk, rfl⟩ := List.mem_range'.mp hi
  exact ⟨hb, by simpa using hk⟩

/-- What is asked of a stream at once covers all rows that are left. -/
lemma ReaderScript.length_positions (script : ReaderScript) (shape : RowShape) :
    script.positions.length <
      script.stream.remaining (QueryShape.rows shape).handler + 1 := by
  have hlength : ∀ b : Batch, b.positions.length = b.rowCount := fun b => by
    simp [Batch.positions, Batch.positionsFrom]
  have hremaining : script.stream.remaining (QueryShape.rows shape).handler =
      (script.batches.map Batch.rowCount).sum := by
    simp only [QueryStream.remaining, ReaderScript.stream, QueryStream.decoding_rows,
      QueryStream.new, List.map_map, Nat.zero_add]
    rfl
  rw [hremaining, ReaderScript.positions, List.length_flatMap]
  simp only [hlength]
  exact Nat.lt_succ_self _

/-- A new decoder makes each row of a table without cells that are out of range, but for a row of a
time series with a column that has no name. -/
lemma RowShape.exists_freshRow {b : Batch} (htable : b.IsTable)
    (hrange : ∀ fault, ¬ b.Overflows fault) {shape : RowShape}
    (hnames : shape = .pointValues → ∀ f ∈ b.schema, f.name ≠ "") {i : Nat} (hi : i < b.rowCount) :
    ∃ item, shape.freshRow (b, i) = .ok item := by
  let table : Decoder.Table := fun _ => (b.schema, b.cells)
  have hrow : ∃ row, Decoder.rowUnder table b.number b.schema shape i = .ok row := by
    have htable' : (table.batch b.number).IsTable := htable
    have hindex : -((table.batch b.number).rowCount : Int) ≤ (i : Int) := by omega
    have hcount : (i : Int) < (table.batch b.number).rowCount := Int.ofNat_lt.mpr hi
    rcases Decoder.agree_rowUnder htable' hindex hcount with
      ⟨fault, hoverflow, -⟩ | ⟨_, row, -, hstands, hagree⟩
    · exact absurd hoverflow (hrange fault)
    · cases shape with
      | list => exact ⟨_, hagree.list_eq⟩
      | dict => exact ⟨_, hagree.dict_eq⟩
      | pointValues =>
        refine hagree.point_ok fun e he hslot => ?_
        obtain ⟨p, hp, hstand⟩ := exists_mem_of_forall₂ hstands e he
        have hname : e.column.name = "" := by
          rcases RowEntry.slot?_named hslot with h | h | h | h
          · nomatch h
          · nomatch h
          · nomatch h
          · exact (Slot.field.inj h).symm
        rw [hstand.column_eq] at hname
        exact hnames rfl p.1 (List.of_mem_zip hp).1 hname
  obtain ⟨row, hrow⟩ := hrow
  refine ⟨.row row, ?_⟩
  have hnew : (Decoder.new.decode shape b i).1.1 = .ok row :=
    (Decoder.decode_new table shape b.number i).trans hrow
  rw [RowShape.freshRow, hnew]
  rfl

/-- **The rows of a query are those that new decoders make.** Let the answer to a query not fail.
Then the stream of the query hands out the rows of all batches in order and each once, as a new
decoder makes each of them, or fails where the new decoder does. Once it has handed out all, it is
closed with its source. That happens whenever the batches are tables without cells that are out of
range, and, for rows of time series, all columns have names.

**Proof sketch.** The state of the stream stands for the rows that are left. Inside a batch the
decoder has the columns of the batch in force, and between batches it keeps no values, so each call
of `next` takes the first of these rows off, as a new decoder makes it. -/
theorem Client.rows_query {c : Client} {options : QueryOptions} {query params now : Value}
    {net : Network} {s : QueryStream Reader Batch} {rest : Client × Network}
    (hquery : c.query options query params now net = (.ok s, rest))
    (hfailure : net.nextReader.failure = none) (shape : RowShape) :
    (∀ bound, (s.takeItems (QueryShape.rows shape).handler bound).1 =
        (net.nextReader.positions.take bound).mapM shape.freshRow) ∧
      (s.drain (QueryShape.rows shape).handler).1 =
        net.nextReader.positions.mapM shape.freshRow ∧
      (∀ items, (s.drain (QueryShape.rows shape).handler).1 = .ok items →
        (s.drain (QueryShape.rows shape).handler).2.Finished) ∧
      ((∀ b ∈ net.nextReader.batches, b.IsTable ∧ (∀ fault, ¬ b.Overflows fault) ∧
          (shape = .pointValues → ∀ f ∈ b.schema, f.name ≠ "")) →
        ∃ items, (s.drain (QueryShape.rows shape).handler).1 = .ok items) := by
  obtain rfl := stream_of_query hquery
  obtain ⟨hstreaming, hupcoming⟩ := ReaderScript.streaming_stream hfailure
  have hlength := net.nextReader.length_positions shape
  have hdrain : (net.nextReader.stream.drain (QueryShape.rows shape).handler).1 =
      net.nextReader.positions.mapM shape.freshRow := by
    rw [QueryStream.drain, (hstreaming.takeItems shape _).1, hupcoming,
      List.take_of_length_le (Nat.le_of_lt hlength)]
  refine ⟨fun bound => ?_, hdrain, fun items hitems => ?_, fun hbatches => ?_⟩
  · rw [(hstreaming.takeItems shape bound).1, hupcoming]
  · rw [hdrain] at hitems
    refine (hstreaming.takeItems shape _).2 ?_ items ?_
    · rw [hupcoming]
      exact hlength
    · rw [hupcoming]
      exact hitems
  · rw [hdrain]
    rcases hall : net.nextReader.positions.mapM shape.freshRow with fault | items
    · obtain ⟨p, hp, hfault⟩ := exists_of_mapM_eq_error hall
      obtain ⟨hmem, hrow⟩ := ReaderScript.of_mem_positions hp
      obtain ⟨htable, hrange, hnames⟩ := hbatches p.1 hmem
      obtain ⟨item, hitem⟩ := RowShape.exists_freshRow htable hrange hnames hrow
      rw [hitem] at hfault
      nomatch hfault
    · exact ⟨items, rfl⟩

namespace Client

/-- A batch with two rows. -/
def hostBatch : Batch :=
  ⟨0, [⟨"host", .text .plain, []⟩, ⟨"count", .integer true 64, []⟩],
    [[.text "a", .text "b"], [.int 1, .int 2]]⟩

/-- A batch of another schema. -/
def dayBatch : Batch := ⟨1, [⟨"day", .date false, []⟩], [[.int 3]]⟩

/-- A batch without rows. -/
def emptyBatch : Batch := ⟨2, [⟨"day", .date false, []⟩], [[]]⟩

/-- A network that answers one query, with one batch coming twice. -/
def hostNetwork : Network :=
  ⟨[], [⟨[hostBatch, emptyBatch, dayBatch, hostBatch], none, [], none⟩], none, [], []⟩

/-- A client that has made its connection. -/
def hostClient : Client :=
  ⟨{ host := .text "http://h", database := .text "d" }, ⟨Address.ofText "http://h", [], false⟩,
    .empty, true, false⟩

/-- The rows of four batches come in order, and the stream is closed after them. -/
theorem rows_query_hostNetwork :
    ∃ s rest, hostClient.query {} (.text "select 1") .null .null hostNetwork = (.ok s, rest) ∧
      hostNetwork.nextReader.failure = none ∧
      (s.drain (QueryShape.rows .list).handler).1 = .ok
        [.row (.value (.list [.text "a", .int 1])), .row (.value (.list [.text "b", .int 2])),
          .row (.value (.list [.date ⟨1970, 1, 4⟩])), .row (.value (.list [.text "a", .int 1])),
          .row (.value (.list [.text "b", .int 2]))] ∧
      (s.drain (QueryShape.rows .list).handler).2.Finished := by
  have hquery : hostClient.query {} (.text "select 1") .null .null hostNetwork =
      (.ok hostNetwork.nextReader.stream, _) := rfl
  obtain ⟨-, hdrain, hfinished, -⟩ := rows_query hquery rfl .list
  exact ⟨_, _, hquery, rfl, hdrain, hfinished _ hdrain⟩

end Client

end SeriesClient
