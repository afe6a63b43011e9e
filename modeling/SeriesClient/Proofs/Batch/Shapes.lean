import SeriesClient.Proofs.Batch.Routing

set_option relaxedAutoImplicit false
set_option autoImplicit false

/-!
# The shapes of a row

The three shapes of a row are made from the same values: a list has one for each column, a
dictionary has them by the names of the columns, and a row of a time series has them in its slots.

## Main definitions

* `SeriesClient.RowEntry.Stands`, `SeriesClient.RowEntry.Takes` — what an entry of a row is to a
  column of a batch, and to a column with values that have been read.
* `SeriesClient.RowShape.Agree` — the three shapes are made from the entries of one row.

## Main results

* `SeriesClient.RowEntry.toList_eq`, `SeriesClient.RowEntry.toDict_eq`,
  `SeriesClient.RowEntry.toPointValues_eq` — what each shape is made of.
* `SeriesClient.Decoder.agree_run` — the shapes agree, or a cell is out of range.
* `SeriesClient.Decoder.not_listed_farDays` — a row in range that has no list.

## Design

The shapes are decoded by the same walk over the columns, which a fault ends. Apart from the
notices that are left behind, it is a fold.
-/

namespace SeriesClient

/-! ## Walks -/

/-- Apart from notices, decoding the parts of a row in order is a fold. -/
lemma Row.collect_fst {α β γ δ : Type} (step : α → β → Row.Logged α) (finish : α → γ)
    (part : δ → β) (acc : α) (l : List δ) :
    (Row.collect step finish acc (l.map part)).1 =
      (l.foldlM (fun acc d => (step acc (part d)).1) acc).map finish := by
  induction l generalizing acc with
  | nil => rfl
  | cons d rest ih =>
    rw [List.map_cons, Row.collect, List.foldlM_cons]
    rcases hstep : step acc (part d) with ⟨fault | acc', notices⟩
    · rfl
    · exact ih acc'

/-- A fold whose steps succeed is a fold of what they come to. -/
lemma foldlM_eq_ok {ε α δ : Type} {step : α → δ → Except ε α} (next : α → δ → α) {l : List δ}
    (h : ∀ acc, ∀ d ∈ l, step acc d = .ok (next acc d)) (acc : α) :
    l.foldlM step acc = .ok (l.foldl next acc) := by
  induction l generalizing acc with
  | nil => rfl
  | cons d rest ih =>
    rw [List.foldlM_cons, h acc d List.mem_cons_self]
    exact ih (fun acc d' hd' => h acc d' (List.mem_cons_of_mem _ hd')) (next acc d)

namespace RowEntry

variable {row : List RowEntry}

/-- An entry as a column with its cell. -/
def cell (e : RowEntry) : Column × Value := (e.column, e.raw)

/-- The name of the column with the value. -/
def named (e : RowEntry) : Value × Value := (.text e.column.name, e.value)

/-- The slot that the value goes to, with the value. -/
def routed? (e : RowEntry) : Option (Slot × Value) := e.slot?.map fun slot => (slot, e.value)

/-- A list has the value of each column, in their order. -/
theorem toList_eq (h : ∀ e ∈ row, e.IsDecoded) :
    (Row.toList (row.map cell)).1 = .ok (.list (row.map value)) := by
  rw [Row.toList, Row.collect_fst, foldlM_eq_ok fun acc e => e.value :: acc]
  · rw [List.foldl_flip_cons_eq_append, List.append_nil, Except.map, List.reverse_reverse]
  · intro acc e he
    exact congrArg (Except.map (· :: acc)) (h e he).cell_eq

/-- A dictionary has the value of each column under its name; the last one counts. -/
theorem toDict_eq (h : ∀ e ∈ row, e.IsDecoded) :
    (Row.toDict (row.map cell)).1 = .ok (.dict (OrderedMap.ofList (row.map named)).entries) := by
  rw [Row.toDict, Row.collect_fst,
    foldlM_eq_ok fun acc e => acc.insert (.text e.column.name) e.value]
  · rw [OrderedMap.ofList, OrderedMap.insertAll, List.foldl_map]
    rfl
  · intro acc e he
    exact congrArg (Except.map fun v => acc.insert (.text e.column.name) v) (h e he).cell_eq

/-- A row of a time series has the values of the columns in their slots, unless a field has no
name. -/
theorem toPointValues_eq (h : ∀ e ∈ row, e.IsDecoded) :
    (Row.toPointValues (row.map cell)).1 =
      if ∃ e ∈ row, e.slot? = some (.field "") then .error (.invalid .fieldNameEmpty)
      else .ok ((PointValues.new .null).writeAll (row.filterMap routed?)) := by
  rw [Row.toPointValues, Row.collect_fst]
  generalize PointValues.new .null = pv
  induction row generalizing pv with
  | nil => simp [PointValues.writeAll, pure, Except.pure, Except.map]
  | cons e rest ih =>
    have hput : (Row.put pv e.cell.1 e.cell.2).1 = _ := put_eq (h e List.mem_cons_self) pv
    specialize ih fun e' he' => h e' (List.mem_cons_of_mem _ he')
    rw [List.foldlM_cons, hput]
    rcases hslot : e.slot? with _ | slot
    · have hrouted : e.routed? = none := by rw [routed?, hslot]; rfl
      rw [List.filterMap_cons_none hrouted]
      simp only [List.exists_mem_cons_iff, hslot, reduceCtorEq, false_or]
      exact ih pv
    · have hrouted : e.routed? = some (slot, e.value) := by rw [routed?, hslot]; rfl
      rw [List.filterMap_cons_some hrouted]
      simp only [List.exists_mem_cons_iff, hslot, Option.some.injEq]
      by_cases hnameless : slot = .field ""
      · rw [if_pos hnameless, if_pos (.inl hnameless)]
        rfl
      · rw [if_neg hnameless]
        simp only [hnameless, false_or]
        exact ih (pv.write slot e.value)

/-- What an entry is to a column of a batch, in some row: it has the cell that reading the column
gives, absent if the stored cell is, and the value of that cell. -/
structure Stands (i : Nat) (p : Field × List Value) (e : RowEntry) : Prop where
  /-- The column is that of the field. -/
  column_eq : e.column = Column.ofField p.1
  /-- The cell is what reading the column gives. -/
  raw_eq : ∃ values, (e.column.read p.2).1 = .ok values ∧ values[i]? = some e.raw
  /-- It is absent if the stored cell is. -/
  null_of_null : p.2[i]? = some .null → e.raw = .null
  /-- The value is that of the cell. -/
  isDecoded : e.IsDecoded

/-- What an entry is to a column with its values, in some row: it has the value there as its cell,
and the column can take it. -/
structure Takes (i : Nat) (p : Column × List Value) (e : RowEntry) : Prop where
  /-- The column is that one. -/
  column_eq : e.column = p.1
  /-- The cell is the value in the row. -/
  raw_eq : p.2[i]? = some e.raw
  /-- The column can take it. -/
  isDecoded : e.IsDecoded

/-- Any column can take a plain value. -/
lemma exists_takes {p : Column × List Value} {i : Nat} (hi : i < p.2.length)
    (h : ∀ v ∈ p.2, v.IsPlain) : ∃ e, Takes i p e := by
  have hplain : (p.2[i]).IsPlain := h _ (List.getElem_mem hi)
  obtain ⟨w, hw⟩ := exists_cell hplain p.1
  exact ⟨⟨p.1, p.2[i], w⟩, rfl, List.getElem?_eq_getElem hi, hplain, hw⟩

/-- An entry with a value that has been read stands for its cell. -/
lemma Takes.stands {p : Field × List Value} {values : List Value} (hread : Column.ReadAs p values)
    {i : Nat} {e : RowEntry} (h : Takes i (Column.ofField p.1, values) e) : Stands i p e := by
  refine ⟨h.column_eq, ⟨values, ?_, h.raw_eq⟩, fun hnull => ?_, h.isDecoded⟩
  · rw [h.column_eq]
    exact hread.1
  · obtain ⟨hi, hcell⟩ := List.getElem?_eq_some_iff.mp hnull
    obtain ⟨hi', hvalue⟩ := List.getElem?_eq_some_iff.mp h.raw_eq
    have hreads : p.2[i].Reads values[i] := hread.2.get hi hi'
    rw [hcell, hvalue] at hreads
    exact hreads.null_of_null rfl

/-- The cells of the entries of a row can be taken by their columns. -/
lemma isDecoded_of_stands {i : Nat} {columns : List (Field × List Value)}
    (h : List.Forall₂ (Stands i) columns row) : ∀ e ∈ row, e.IsDecoded := by
  intro e he
  obtain ⟨_, _, hstand⟩ := exists_mem_of_forall₂ h e he
  exact hstand.isDecoded

end RowEntry

/-! ## Rows -/

namespace Decoder

/-- An index in range means a row. -/
lemma exists_position {count : Nat} {index : Int} (hindex : -(count : Int) ≤ index)
    (hcount : index < count) : ∃ i, position? count index = some i ∧ i < count := by
  refine ⟨(if index < 0 then index + count else index).toNat, if_pos ?_, ?_⟩
  · split <;> omega
  · split <;> omega

/-- Plain values have a row at each index in range, whatever the columns. -/
lemma exists_rowCells {columns : List (Column × List Value)} {count i : Nat} {index : Int}
    (hindex : position? count index = some i) (hi : i < count)
    (h : ∀ p ∈ columns, p.2.length = count ∧ ∀ v ∈ p.2, v.IsPlain) :
    ∃ row, rowCells index columns = (row.map RowEntry.cell, true) ∧
      List.Forall₂ (RowEntry.Takes i) columns row := by
  induction columns with
  | nil => exact ⟨[], rfl, .nil⟩
  | cons p columns ih =>
    obtain ⟨hlength, hplain⟩ := h p List.mem_cons_self
    obtain ⟨row, hcells, htakes⟩ := ih fun p' hp' => h p' (List.mem_cons_of_mem _ hp')
    obtain ⟨e, he⟩ := RowEntry.exists_takes (i := i) (by omega) hplain
    refine ⟨e :: row, ?_, .cons he htakes⟩
    simp only [List.map_cons, rowCells, hlength, hindex, Option.bind_some, he.raw_eq, hcells,
      RowEntry.cell, he.column_eq]

/-- Entries with values that have been read stand for their cells. -/
lemma forall₂_stands {columns : List (Field × List Value)} {values : List (List Value)}
    (hread : List.Forall₂ Column.ReadAs columns values) {i : Nat} {row : List RowEntry}
    (h : List.Forall₂ (RowEntry.Takes i)
      ((columns.map fun p => Column.ofField p.1).zip values) row) :
    List.Forall₂ (RowEntry.Stands i) columns row := by
  induction hread generalizing row with
  | nil =>
    cases h
    exact .nil
  | cons hcolumn _ ih =>
    cases h with
    | cons htakes hrest => exact .cons (htakes.stands hcolumn) (ih hrest)

end Decoder

/-- The three shapes of a row: a list has one value for each column, a dictionary has the same
values by the names of the columns, and a row of a time series, if there is one, is made of the
values that go to its slots. It is refused only for a field without a name. -/
structure RowShape.Agree (decoded : RowShape → Except Fault DecodedRow) (row : List RowEntry) :
    Prop where
  /-- A list has the value of each column, in their order. -/
  list_eq : decoded .list = .ok (.value (.list (row.map RowEntry.value)))
  /-- A dictionary has them by name; of columns with one name the last one counts. -/
  dict_eq : decoded .dict =
    .ok (.value (.dict (OrderedMap.ofList (row.map RowEntry.named)).entries))
  /-- A row of a time series is made of the values that go to its slots. -/
  point_eq : ∀ result, decoded .pointValues = .ok result →
    ∃ pv, result = .point pv ∧ pv.IsMadeFrom (row.filterMap RowEntry.routed?)
  /-- There is one unless a field has no name. -/
  point_ok : (∀ e ∈ row, e.slot? ≠ some (.field "")) →
    ∃ result, decoded .pointValues = .ok result

namespace Decoder

/-- A row that is complete is decoded from its cells. -/
lemma decodeRow_of_complete {columns : List (Column × List Value)} {index : Int}
    {cells : List (Column × Value)} (hcells : rowCells index columns = (cells, true))
    (shape : RowShape) : (decodeRow shape columns index).1 = (shape.decode cells).1 := by
  rcases hshape : shape.decode cells with ⟨fault | result, notices⟩
  · simp only [decodeRow, hcells, hshape]
  · simp only [decodeRow, hcells, hshape, if_true]

/-- A row of a time series as a decoded row. -/
lemma decode_pointValues {row : List RowEntry} (hrow : ∀ e ∈ row, e.IsDecoded) :
    (RowShape.pointValues.decode (row.map RowEntry.cell)).1 =
      if ∃ e ∈ row, e.slot? = some (.field "") then .error (.invalid .fieldNameEmpty)
      else .ok (.point ((PointValues.new .null).writeAll (row.filterMap RowEntry.routed?))) := by
  have hpoint : (RowShape.pointValues.decode (row.map RowEntry.cell)).1 =
      (Row.toPointValues (row.map RowEntry.cell)).1.map .point := rfl
  rw [hpoint, RowEntry.toPointValues_eq hrow]
  split
  · rfl
  · rfl

/-- The shapes of a row whose cells can be taken by their columns agree. -/
lemma agree_decode {row : List RowEntry} (hrow : ∀ e ∈ row, e.IsDecoded) :
    RowShape.Agree (fun shape => (shape.decode (row.map RowEntry.cell)).1) row := by
  constructor
  · exact congrArg (Except.map DecodedRow.value) (RowEntry.toList_eq hrow)
  · exact congrArg (Except.map DecodedRow.value) (RowEntry.toDict_eq hrow)
  · intro result hresult
    rw [decode_pointValues hrow] at hresult
    split at hresult
    · cases hresult
    · obtain rfl := Except.ok.inj hresult
      refine ⟨_, rfl, PointValues.isMadeFrom_writeAll fun r hr => ?_⟩
      obtain ⟨e, he, hrouted⟩ := List.mem_filterMap.mp hr
      obtain ⟨slot, hslot, rfl⟩ := Option.map_eq_some_iff.mp hrouted
      exact RowEntry.fits_of_slot? (hrow e he) hslot
  · intro hnamed
    rw [decode_pointValues hrow, if_neg]
    · exact ⟨_, rfl⟩
    · rintro ⟨e, he, hslot⟩
      exact hnamed e he hslot

/-- The values of a batch are plain, and as many in each column as there are rows. -/
lemma plain_of_readAs {table : Table} {n : Nat} (htable : (table.batch n).IsTable)
    {values : List (List Value)}
    (hread : List.Forall₂ Column.ReadAs ((table n).1.zip (table n).2) values) :
    ∀ vs ∈ values, vs.length = (table.batch n).rowCount ∧ ∀ v ∈ vs, v.IsPlain := by
  intro vs hvs
  obtain ⟨p, hp, -, hreads⟩ := exists_mem_of_forall₂ hread vs hvs
  refine ⟨?_, fun v hv => ?_⟩
  · rw [← hreads.length_eq]
    exact ((List.forall₂_iff_zip.mp htable).2 hp).1
  · obtain ⟨_, _, hcell⟩ := exists_mem_of_forall₂ hreads v hv
    exact hcell.isPlain

/-- **A row is decoded from its entries**, whatever the columns, unless the batch cannot be read
because a cell is out of range. -/
lemma rowUnder_takes {table : Table} {n : Nat} (htable : (table.batch n).IsTable) {index : Int}
    {i : Nat} (hindex : position? (table.batch n).rowCount index = some i)
    (hi : i < (table.batch n).rowCount) (schema : List Field) :
    (∃ fault, (valuesOf table n).1 = .error fault ∧ (table.batch n).Overflows fault) ∨
      ∃ values row, (valuesOf table n).1 = .ok values ∧
        List.Forall₂ Column.ReadAs ((table n).1.zip (table n).2) values ∧
        List.Forall₂ (RowEntry.Takes i) ((schema.map Column.ofField).zip values) row ∧
        ∀ shape, rowUnder table n schema shape index =
          (shape.decode (row.map RowEntry.cell)).1 := by
  rcases htable.valuesOf_outcome with hfault | ⟨values, hvalues, hread⟩
  · exact .inl hfault
  · have hplain : ∀ p ∈ (schema.map Column.ofField).zip values,
        p.2.length = (table.batch n).rowCount ∧ ∀ v ∈ p.2, v.IsPlain :=
      fun p hp => plain_of_readAs htable hread p.2 (List.of_mem_zip hp).2
    obtain ⟨row, hcells, htakes⟩ := exists_rowCells hindex hi hplain
    refine .inr ⟨values, row, hvalues, hread, htakes, fun shape => ?_⟩
    simp only [rowUnder, hvalues]
    exact decodeRow_of_complete hcells shape

/-- The entries of a row under the columns of its batch stand for its cells. -/
lemma rowUnder_outcome {table : Table} {n : Nat} (htable : (table.batch n).IsTable) {index : Int}
    {i : Nat} (hindex : position? (table.batch n).rowCount index = some i)
    (hi : i < (table.batch n).rowCount) :
    (∃ fault, (valuesOf table n).1 = .error fault ∧ (table.batch n).Overflows fault) ∨
      ∃ row, List.Forall₂ (RowEntry.Stands i) ((table n).1.zip (table n).2) row ∧
        ∀ shape, rowUnder table n (table n).1 shape index =
          (shape.decode (row.map RowEntry.cell)).1 := by
  refine (rowUnder_takes htable hindex hi (table n).1).imp_right ?_
  rintro ⟨values, row, -, hread, htakes, hrow⟩
  have hfields : ((table n).1.zip (table n).2).map (fun p => Column.ofField p.1) =
      (table n).1.map Column.ofField := by
    have hfst : ((table n).1.zip (table n).2).map Prod.fst = (table n).1 :=
      List.map_fst_zip (Nat.le_of_eq (List.forall₂_iff_zip.mp htable).1)
    conv_rhs => rw [← hfst, List.map_map]
    rfl
  rw [← hfields] at htakes
  exact ⟨row, forall₂_stands hread htakes, hrow⟩

/-- **The shapes of a row agree under the columns of its batch**, unless a cell of the batch is out
of range; then there is none of them. -/
lemma agree_rowUnder {table : Table} {n : Nat} (htable : (table.batch n).IsTable) {index : Int}
    (hindex : -((table.batch n).rowCount : Int) ≤ index)
    (hcount : index < (table.batch n).rowCount) :
    (∃ fault, (table.batch n).Overflows fault ∧
        ∀ shape, rowUnder table n (table n).1 shape index = .error fault) ∨
      ∃ i row, position? (table.batch n).rowCount index = some i ∧
        List.Forall₂ (RowEntry.Stands i) ((table n).1.zip (table n).2) row ∧
        RowShape.Agree (fun shape => rowUnder table n (table n).1 shape index) row := by
  obtain ⟨i, hi, hlt⟩ := exists_position hindex hcount
  rcases rowUnder_outcome htable hi hlt with ⟨fault, hfault, hoverflow⟩ | ⟨row, hstands, hrow⟩
  · refine .inl ⟨fault, hoverflow, fun shape => ?_⟩
    rw [rowUnder, hfault]
  · refine .inr ⟨i, row, hi, hstands, ?_⟩
    simp only [hrow]
    exact agree_decode (RowEntry.isDecoded_of_stands hstands)

/-- **The shapes of a row agree.** Let a decoder be asked for a row in range of a batch as it comes
from the server, after any calls that have left the schema of the batch in force. Unless reading the
batch meets a cell that is out of range, which every shape then reports, a list has one value for
each column, and a dictionary has the same values by the names of the columns. A row of a time
series, if it comes out at all, has in each slot the last of these values that goes to it, and
nothing else. A value goes nowhere if its cell is absent or dropped, and otherwise to one slot: the
measurement, the timestamp, or the tag or field of the name of its column.

**Proof sketch.** The cells of a row are plain, since they were read from a table, so each has a
value. Walking over the columns stores each value in its slot, so the last one counts. -/
theorem agree_run {table : Table} {n : Nat} (htable : (table.batch n).IsTable) (index : Int)
    (hindex : -((table.batch n).rowCount : Int) ≤ index)
    (hcount : index < (table.batch n).rowCount) (calls : List Call)
    (hown : (Memory.run table calls).kept ≠ some n ∨
      (Memory.run table calls).asked = some (table n).1) :
    (∃ fault, (table.batch n).Overflows fault ∧
        ∀ shape, ((run table calls).decode shape (table.batch n) index).1.1 = .error fault) ∨
      ∃ i row, position? (table.batch n).rowCount index = some i ∧
        List.Forall₂ (RowEntry.Stands i) ((table n).1.zip (table n).2) row ∧
        RowShape.Agree
          (fun shape => ((run table calls).decode shape (table.batch n) index).1.1) row ∧
        ∀ e ∈ row, (e.slot? = none ↔ e.raw = .null ∨ e.IsDropped) ∧
          ∀ slot, e.slot? = some slot → slot = .measurement ∨ slot = .timestamp ∨
            slot = .tag e.column.name ∨ slot = .field e.column.name := by
  simp only [decode_run, Memory.inForce_own hown]
  refine (agree_rowUnder htable hindex hcount).imp id ?_
  rintro ⟨i, row, hi, hstands, hagree⟩
  refine ⟨i, row, hi, hstands, hagree, fun e _ => ⟨e.slot?_eq_none_iff, fun slot hslot => ?_⟩⟩
  exact RowEntry.slot?_named hslot

/-- A batch with one row: a measurement, a tag, two counts of one name, and the time. -/
def loadTable : Table := fun _ =>
  ([⟨"measurement", .text .plain, []⟩,
    ⟨"host", .text .plain, [(Column.roleKey, "iox::column_type::tag")]⟩,
    ⟨"load", .integer true 64, []⟩,
    ⟨"load", .integer true 64, [(Column.roleKey, "iox::column_type::field::float")]⟩,
    ⟨"time", .timestamp .milli none, []⟩],
   [[.text "cpu"], [.text "a"], [.int 1], [.int 2], [.int 5]])

/-- The shapes of the only row agree, counted from the end, after another schema was asked for. -/
theorem agree_loadTable :
    (loadTable.batch 0).IsTable ∧
      (Memory.run loadTable [.columns []]).kept ≠ some 0 ∧
      ∃ row, List.Forall₂ (RowEntry.Stands 0) ((loadTable 0).1.zip (loadTable 0).2) row ∧
        RowShape.Agree (fun shape =>
          ((run loadTable [.columns []]).decode shape (loadTable.batch 0) (-1)).1.1) row := by
  have htable : (loadTable.batch 0).IsTable := by decide
  have hkept : (Memory.run loadTable [.columns []]).kept ≠ some 0 := nofun
  refine ⟨htable, hkept, ?_⟩
  have hrow := agree_run htable (-1) (by decide) (by decide) [.columns []] (.inl hkept)
  rcases hrow with ⟨fault, -, hfault⟩ | ⟨i, row, hi, hstands, hagree, -⟩
  · nomatch hfault .list
  · obtain rfl : 0 = i := by simpa [position?, Batch.rowCount, loadTable, Table.batch] using hi
    exact ⟨row, hstands, hagree⟩

/-- A batch with a day after the year 9999. -/
def farDays : Table := fun _ =>
  ([⟨"host", .text .plain, []⟩, ⟨"day", .date false, []⟩], [[.text "a"], [.int 2932897]])

/-- A row in range has no list, since a day of its batch is out of range. -/
theorem not_listed_farDays :
    (farDays.batch 0).IsTable ∧ 0 < (farDays.batch 0).rowCount ∧
      ¬ ∃ vs, (new.decode .list (farDays.batch 0) 0).1.1 = .ok (.value (.list vs)) ∧
        vs.length = (farDays 0).1.length := by
  have hfault : (new.decode .list (farDays.batch 0) 0).1.1 = .error (.range .date) := rfl
  refine ⟨by decide, by decide, ?_⟩
  rintro ⟨vs, hlist, -⟩
  rw [hfault] at hlist
  nomatch hlist

end Decoder

end SeriesClient
