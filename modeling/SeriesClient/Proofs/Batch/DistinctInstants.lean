import Mathlib.Data.List.Zip
import SeriesClient.Proofs.Batch.Instants

set_option relaxedAutoImplicit false
set_option autoImplicit false

/-!
# Distinct instants

A time column may refer to a table of distinct timestamps. Such a column is read as date-times,
which need no unit, and its rows are those of the plain column with the same counts. If one of its
instants lies between two microseconds, it is read as counts instead. Its type does not tell their
unit, so that they are taken for milliseconds.

## Main definitions

* `SeriesClient.Value.ReadsInstant` — a date-time of the instant that is stored.
* `SeriesClient.Column.HasSplit` — a column has an instant between two microseconds.

## Main results

* `SeriesClient.Column.read_distinct` — the two ways in which distinct instants are read.
* `SeriesClient.RowShape.decode_congr` — entries of the same value and slot make the same row.
* `SeriesClient.Decoder.distinct_run` — when distinct instants come out as plain ones do.
* `SeriesClient.Decoder.not_scaled_splitArrivals` — an instant that comes out a million times as
  late.

## Design

The plain column is that of another batch, which is the same in everything else.
-/

namespace SeriesClient

/-! ## Reading distinct instants -/

/-- What a cell of distinct instants is read to: an absent cell is absent, and a count is a
date-time of the instant that it counts. -/
def Value.ReadsInstant (unit : Precision) (v w : Value) : Prop :=
  v = .null ∧ w = .null ∨
    ∃ count t, v = .int count ∧ w = .datetime t ∧ t.toNanos = count * unit.scale

/-- One of the counts of a column lies between two microseconds. -/
def Column.HasSplit (unit : Precision) (cells : List Value) : Prop :=
  ∃ count, .int count ∈ cells ∧ CellType.IsSplit unit count

section Reading

variable {unit : Precision} {zone : Option String}

/-- A column of distinct instants has the cells of a plain one. -/
lemma CellType.holds_of_distinct {v : Value}
    (h : (dictionary (timestamp unit zone)).holds v = true) :
    (timestamp unit zone).holds v = true := by
  simpa only [holds, stores] using h

/-- A cell of distinct instants that is not out of range is read, unless it lies between two
microseconds. -/
lemma CellType.read_distinct {v : Value}
    (hholds : (dictionary (timestamp unit zone)).holds v = true)
    (hrange : ∀ fault, (dictionary (timestamp unit zone)).read v ≠ .error (.overflow fault)) :
    (∃ w, (dictionary (timestamp unit zone)).read v = .ok w ∧ v.ReadsInstant unit w ∧
        ∀ count, v = .int count → ¬ IsSplit unit count) ∨
      (dictionary (timestamp unit zone)).read v = .error .unreadable ∧
        ∃ count, v = .int count ∧ IsSplit unit count := by
  rcases null_or_count (holds_of_distinct hholds) with rfl | ⟨count, rfl⟩
  · exact .inl ⟨.null, read_null _, .inl ⟨rfl, rfl⟩, by simp⟩
  · have hread : (dictionary (timestamp unit zone)).read (.int count) =
        readInstant unit zone count >>= fun t => .ok (.datetime t) := by
      rw [read, if_neg (by exact Bool.false_ne_true), readPresent, readPresent]
      rfl
    rcases readInstant_outcome unit zone count with ⟨t, hyields, ht, hwhole⟩ | ⟨hunread, hsplit⟩
    · have hyields' : CellFault.Yields ((dictionary (timestamp unit zone)).read (.int count))
          (.datetime t) := by
        rw [hread]
        exact hyields.bind (.inl rfl)
      rcases hyields' with hok | ⟨fault, hfault⟩
      · refine .inl ⟨_, hok, .inr ⟨count, t, rfl, rfl, ht⟩, fun count' hcount' => ?_⟩
        rwa [← Value.int.inj hcount']
      · exact absurd hfault (hrange fault)
    · right
      rw [hread, hunread]
      exact ⟨rfl, count, rfl, hsplit⟩

/-- **Distinct instants are read as date-times, or as counts** if one of them lies between two
microseconds. -/
theorem Column.read_distinct {c : Column} (htype : c.type = .dictionary (.timestamp unit zone))
    {cells : List Value} (hholds : ∀ v ∈ cells, c.type.holds v = true)
    (hrange : ∀ v ∈ cells, ∀ fault, c.type.read v ≠ .error (.overflow fault)) :
    (¬ HasSplit unit cells ∧ ∃ values, (c.read cells).1 = .ok values ∧
        List.Forall₂ (Value.ReadsInstant unit) cells values) ∨
      HasSplit unit cells ∧ (c.read cells).1 = .ok cells := by
  have hno : ∀ unit' zone', c.type ≠ .timestamp unit' zone' := by
    intro unit' zone'
    rw [htype]
    simp
  have hcounts : c.type.countsAsIntegers = true := by
    rw [htype]
    rfl
  rcases read_of_no_timestamp hno cells with ⟨values, hread, -, hvalues⟩ | ⟨fault, hread, -⟩ |
    ⟨hread, hfault⟩
  · rw [htype] at hholds hrange hvalues
    have hcell : ∀ v ∈ cells, ∀ w, (CellType.dictionary (.timestamp unit zone)).read v = .ok w →
        v.ReadsInstant unit w ∧ ∀ count, v = .int count → ¬ CellType.IsSplit unit count := by
      intro v hv w hw
      rcases CellType.read_distinct (hholds v hv) (hrange v hv) with
        ⟨w', hw', hreads, hwhole⟩ | ⟨hunread, -⟩
      · obtain rfl : w = w' := Except.ok.inj (hw.symm.trans hw')
        exact ⟨hreads, hwhole⟩
      · cases hw.symm.trans hunread
    refine .inl ⟨?_, values, hread, ?_⟩
    · rintro ⟨count, hmem, hsplit⟩
      obtain ⟨w, -, hw⟩ := exists_mem_of_forall₂ hvalues.flip _ hmem
      exact (hcell _ hmem w hw).2 count rfl hsplit
    · obtain ⟨hlength, hzip⟩ := List.forall₂_iff_zip.mp hvalues
      exact List.forall₂_iff_zip.mpr
        ⟨hlength, fun {v w} hvw => (hcell v (List.of_mem_zip hvw).1 w (hzip hvw)).1⟩
  · obtain ⟨-, v, hv, hoverflow⟩ := exists_of_read_eq_error hread
    exact absurd hoverflow (hrange v hv fault)
  · obtain ⟨v, hv, hunread⟩ := exists_of_cellFault? hfault
    rw [readRaw, if_pos hcounts] at hread
    rw [htype] at hunread hholds hrange
    rcases CellType.read_distinct (hholds v hv) (hrange v hv) with
      ⟨w, hw, -⟩ | ⟨-, count, rfl, hsplit⟩
    · cases hunread.symm.trans hw
    · exact .inr ⟨⟨count, hv, hsplit⟩, hread⟩

end Reading

namespace RowEntry.Stands

variable {i : Nat} {field : Field} {cells : List Value} {e e' : RowEntry} {unit : Precision}
  {zone : Option String}

/-- The entry of a time column that is read as date-times is absent with its cell, and otherwise the
timestamp: its count, scaled by the unit of the column. -/
lemma of_read_instants (h : Stands i (field, cells) e)
    (htime : (Column.ofField field).isTime = true) (hi : i < cells.length) {values : List Value}
    (hread : ((Column.ofField field).read cells).1 = .ok values)
    (hreads : List.Forall₂ (Value.ReadsInstant unit) cells values) :
    cells[i]? = some .null ∧ e.value = .null ∧ e.slot? = none ∨
      ∃ count, cells[i]? = some (.int count) ∧ e.value = .int (count * unit.scale) ∧
        e.slot? = some .timestamp := by
  have htime' : e.column.isTime = true := h.column_eq ▸ htime
  have hraw := h.raw_of_read hread
  have hvalue : i < values.length := hreads.length_eq ▸ hi
  rw [List.getElem?_eq_getElem hvalue] at hraw
  rw [List.getElem?_eq_getElem hi]
  rcases hreads.get hi hvalue with ⟨hcell, hnull⟩ | ⟨count, t, hcell, hinstant, ht⟩
  · refine .inl ⟨congrArg some hcell, value_of_null h.isDecoded ?_⟩
    rw [← Option.some.inj hraw]
    exact hnull
  · have hnanos : Timestamp.ofCell? e.raw e.column.type.unit? = some (count * unit.scale) := by
      rw [← Option.some.inj hraw, ← ht]
      exact congrArg (Timestamp.ofCell? · _) hinstant
    exact .inr ⟨count, congrArg some hcell, timestamp_of_isTime h.isDecoded htime' hnanos⟩

/-- The entry of a time column that is read as counts of an unknown unit is absent with its cell,
and otherwise the timestamp: its count, scaled as if it were one of milliseconds. -/
lemma of_read_counts (h : Stands i (field, cells) e)
    (htime : (Column.ofField field).isTime = true) (hunit : field.type.unit? = none)
    (hi : i < cells.length) (hread : ((Column.ofField field).read cells).1 = .ok cells)
    (hcounts : ∀ v ∈ cells, v = .null ∨ ∃ count, v = .int count) :
    cells[i]? = some .null ∧ e.value = .null ∧ e.slot? = none ∨
      ∃ count, cells[i]? = some (.int count) ∧
        e.value = .int (count * Timestamp.defaultCellUnit.scale) ∧ e.slot? = some .timestamp := by
  have htime' : e.column.isTime = true := h.column_eq ▸ htime
  have hunit' : e.column.type.unit? = none := by
    rw [h.column_eq]
    exact hunit
  have hraw := h.raw_of_read hread
  rw [List.getElem?_eq_getElem hi] at hraw ⊢
  rcases hcounts _ (List.getElem_mem hi) with hcell | ⟨count, hcell⟩
  · rw [hcell] at hraw ⊢
    exact .inl ⟨rfl, value_of_null h.isDecoded (Option.some.inj hraw).symm⟩
  · have hnanos : Timestamp.ofCell? e.raw e.column.type.unit? =
        some (count * Timestamp.defaultCellUnit.scale) := by
      rw [← Option.some.inj hraw, hcell, hunit']
      rfl
    exact .inr ⟨count, congrArg some hcell, timestamp_of_isTime h.isDecoded htime' hnanos⟩

/-- **The entry of a time column of distinct instants** is absent with its cell, and otherwise the
timestamp: its count, scaled by the unit of the column if the column is read as date-times, and like
milliseconds if it is read as counts. -/
lemma distinct (h : Stands i (field, cells) e)
    (htype : field.type = .dictionary (.timestamp unit zone))
    (htime : (Column.ofField field).isTime = true)
    (hholds : ∀ v ∈ cells, field.type.holds v = true)
    (hrange : ∀ v ∈ cells, ∀ fault, field.type.read v ≠ .error (.overflow fault))
    (hi : i < cells.length) :
    cells[i]? = some .null ∧ e.value = .null ∧ e.slot? = none ∨
      ∃ count, cells[i]? = some (.int count) ∧ e.slot? = some .timestamp ∧
        (¬ Column.HasSplit unit cells → e.value = .int (count * unit.scale)) ∧
        (Column.HasSplit unit cells →
          e.value = .int (count * Timestamp.defaultCellUnit.scale)) := by
  rcases Column.read_distinct (c := Column.ofField field) htype hholds hrange with
    ⟨hwhole, values, hread, hreads⟩ | ⟨hsplit, hread⟩
  · refine (h.of_read_instants htime hi hread hreads).imp id ?_
    rintro ⟨count, hcell, hvalue, hslot⟩
    exact ⟨count, hcell, hslot, fun _ => hvalue, fun hsplit => absurd hsplit hwhole⟩
  · have hunit : field.type.unit? = none := by rw [htype]; rfl
    have hcounts : ∀ v ∈ cells, v = .null ∨ ∃ count, v = .int count := fun v hv =>
      CellType.null_or_count (CellType.holds_of_distinct (htype ▸ hholds v hv))
    refine (h.of_read_counts htime hunit hi hread hcounts).imp id ?_
    rintro ⟨count, hcell, hvalue, hslot⟩
    exact ⟨count, hcell, hslot, fun hwhole => absurd hsplit hwhole, fun _ => hvalue⟩

/-- The entry of distinct instants that are read as date-times has the value of the entry of plain
ones, in the same slot. -/
lemma distinct_eq_plain (h : Stands i (field, cells) e)
    (h' : Stands i ({ field with type := .timestamp unit zone }, cells) e')
    (htype : field.type = .dictionary (.timestamp unit zone))
    (htime : (Column.ofField field).isTime = true)
    (hholds : ∀ v ∈ cells, field.type.holds v = true)
    (hrange : ∀ v ∈ cells, ∀ fault, field.type.read v ≠ .error (.overflow fault))
    (hi : i < cells.length) (hwhole : ¬ Column.HasSplit unit cells) :
    e.named = e'.named ∧ e.slot? = e'.slot? := by
  have hname : e.column.name = e'.column.name := by rw [h.column_eq, h'.column_eq]; rfl
  have htime' : (Column.ofField { field with type := .timestamp unit zone }).isTime = true := htime
  have hfloat : (Column.ofField { field with type := .timestamp unit zone }).role ≠
      some (.field (some .float)) := by
    intro hrole
    rw [Column.isTime_of_some hrole] at htime'
    cases htime'
  have hholds' : ∀ v ∈ cells, (CellType.timestamp unit zone).holds v = true := fun v hv =>
    CellType.holds_of_distinct (htype ▸ hholds v hv)
  have hplain := h'.counts rfl hfloat hholds' hi
  rw [Column.instantSlot?, if_pos htime'] at hplain
  rw [named, named, hname]
  rcases h.distinct htype htime hholds hrange hi with
    ⟨hcell, hvalue, hslot⟩ | ⟨count, hcell, hslot, hvalue, -⟩
  · rcases hplain with ⟨-, hvalue', hslot'⟩ | ⟨count', hcell', -⟩
    · rw [hvalue, hvalue', hslot, hslot']
      exact ⟨rfl, rfl⟩
    · cases hcell.symm.trans hcell'
  · rcases hplain with ⟨hcell', -⟩ | ⟨count', hcell', hvalue', hslot'⟩
    · cases hcell.symm.trans hcell'
    · obtain rfl : count = count' := Value.int.inj (Option.some.inj (hcell.symm.trans hcell'))
      rw [hvalue hwhole, hvalue', hslot, hslot']
      exact ⟨rfl, rfl⟩

end RowEntry.Stands

/-! ## Rows of alike entries -/

/-- **Entries of the same name, value and slot make the same row** in every shape. -/
theorem RowShape.decode_congr {front back : List RowEntry} {e e' : RowEntry}
    (h : ∀ e'' ∈ front ++ e :: back, e''.IsDecoded)
    (h' : ∀ e'' ∈ front ++ e' :: back, e''.IsDecoded) (hnamed : e.named = e'.named)
    (hslot : e.slot? = e'.slot?) (shape : RowShape) :
    (shape.decode ((front ++ e :: back).map RowEntry.cell)).1 =
      (shape.decode ((front ++ e' :: back).map RowEntry.cell)).1 := by
  have hvalue : e.value = e'.value := congrArg Prod.snd hnamed
  have hrouted : e.routed? = e'.routed? := by rw [RowEntry.routed?, RowEntry.routed?, hvalue, hslot]
  cases shape with
  | list =>
    have hlist : (Row.toList ((front ++ e :: back).map RowEntry.cell)).1 =
        (Row.toList ((front ++ e' :: back).map RowEntry.cell)).1 := by
      rw [RowEntry.toList_eq h, RowEntry.toList_eq h']
      simp only [List.map_append, List.map_cons, hvalue]
    exact congrArg (Except.map DecodedRow.value) hlist
  | dict =>
    have hdict : (Row.toDict ((front ++ e :: back).map RowEntry.cell)).1 =
        (Row.toDict ((front ++ e' :: back).map RowEntry.cell)).1 := by
      rw [RowEntry.toDict_eq h, RowEntry.toDict_eq h']
      simp only [List.map_append, List.map_cons, hnamed]
    exact congrArg (Except.map DecodedRow.value) hdict
  | pointValues =>
    have hpoint : (Row.toPointValues ((front ++ e :: back).map RowEntry.cell)).1 =
        (Row.toPointValues ((front ++ e' :: back).map RowEntry.cell)).1 := by
      rw [RowEntry.toPointValues_eq h, RowEntry.toPointValues_eq h']
      simp only [List.mem_append, List.mem_cons, or_and_right, exists_or, exists_eq_left, hslot,
        List.filterMap_append, List.filterMap_cons, hrouted]
    exact congrArg (Except.map DecodedRow.point) hpoint

/-! ## Plain and distinct instants -/

/-- Replacing an item of the first of two lists replaces a pair of them. -/
lemma set_zip {α β : Type} {l : List α} {l' : List β} {k : Nat} {b : β} (h : l'[k]? = some b)
    (a : α) : (l.set k a).zip l' = (l.zip l').set k (a, b) := by
  have hswap : (l'.zip (l.set k a)).map Prod.swap = ((l'.zip l).set k (b, a)).map Prod.swap := by
    rw [zip_set h]
  rwa [List.zip_swap, List.map_set, List.zip_swap] at hswap

namespace Decoder

variable {table : Table} {n m k : Nat} {field : Field} {cells : List Value} {unit : Precision}
  {zone : Option String}

/-- The batch with the plain column is as much a table as the other one, with as many rows. -/
lemma isTable_of_plain (htable : (table.batch n).IsTable) (hfield : (table n).1[k]? = some field)
    (htype : field.type = .dictionary (.timestamp unit zone))
    (hplain : table m = ((table n).1.set k { field with type := .timestamp unit zone },
      (table n).2)) :
    (table.batch m).IsTable ∧ (table.batch m).rowCount = (table.batch n).rowCount := by
  have hcount : (table.batch m).rowCount = (table.batch n).rowCount := by
    simp only [Batch.rowCount, Table.batch, hplain]
  have hschema : (table.batch m).schema =
      (table n).1.set k { field with type := .timestamp unit zone } := by
    rw [Table.batch, hplain]
  have hsame : (table.batch m).cells = (table n).2 := by
    rw [Table.batch, hplain]
  refine ⟨?_, hcount⟩
  obtain ⟨before, behind, hbefore, hset, -⟩ :=
    exists_beside hfield { field with type := .timestamp unit zone }
  have htable' : List.Forall₂ (fun (f : Field) column => column.length = (table.batch n).rowCount ∧
      ∀ v ∈ column, f.type.holds v = true) (table n).1 (table n).2 := htable
  rw [hbefore] at htable'
  rw [Batch.IsTable, hcount, hschema, hsame, hset]
  obtain ⟨front, column, back, hcells, hfront, hcolumn, hback⟩ := forall₂_beside htable'
  rw [hcells]
  exact List.rel_append hfront (.cons
    ⟨hcolumn.1, fun v hv => CellType.holds_of_distinct (htype ▸ hcolumn.2 v hv)⟩ hback)

/-- **When a column of distinct instants is read like a plain one.** Let two batches as they come
from the server be the same but for the time column: its counts are those of distinct timestamps in
one batch, and of plain ones in the other one. Let no cell of the column be out of the range of
date-times, and let a decoder be asked for the same row of each, after any calls that have left the
schema of the batch in force. If a cell of another column is out of range, neither batch has rows,
for this cell. Otherwise an absent cell stays absent, and a count comes out as the timestamp. If
none of the counts lies between two microseconds, it is the number of nanoseconds that the unit
calls for, and all shapes of the row are those of the plain column. If one of them does, all of them
come out as if they were milliseconds.

**Proof sketch.** The columns can be read, so that the rows have the same entries but for one. A
date-time that is read is the instant that was counted, so without an instant between two
microseconds this entry has the value that the plain one has, in the same slot. -/
theorem distinct_run (htable : (table.batch n).IsTable) (hfield : (table n).1[k]? = some field)
    (hcells : (table n).2[k]? = some cells)
    (htype : field.type = .dictionary (.timestamp unit zone))
    (htime : (Column.ofField field).isTime = true)
    (hrange : ∀ v ∈ cells, ∀ fault, field.type.read v ≠ .error (.overflow fault))
    (hplain : table m = ((table n).1.set k { field with type := .timestamp unit zone },
      (table n).2))
    {index : Int} {i : Nat} (hindex : position? (table.batch n).rowCount index = some i)
    (calls calls' : List Call)
    (hown : (Memory.run table calls).kept ≠ some n ∨
      (Memory.run table calls).asked = some (table n).1)
    (hown' : (Memory.run table calls').kept ≠ some m ∨
      (Memory.run table calls').asked = some (table m).1) :
    (∃ fault, (table.batch n).OverflowsBeside k fault ∧
        ∀ shape, ((run table calls).decode shape (table.batch n) index).1.1 = .error fault ∧
          ((run table calls').decode shape (table.batch m) index).1.1 = .error fault) ∨
      (∃ front e back, front.length = k ∧ e.column = Column.ofField field ∧
        List.Forall₂ (RowEntry.Stands i) ((table n).1.zip (table n).2) (front ++ e :: back) ∧
        RowShape.Shows (fun shape => ((run table calls).decode shape (table.batch n) index).1.1)
          front e back ∧
        (cells[i]? = some .null ∧ e.value = .null ∧ e.slot? = none ∨
          ∃ count, cells[i]? = some (.int count) ∧ e.slot? = some .timestamp ∧
            (¬ Column.HasSplit unit cells → e.value = .int (count * unit.scale)) ∧
            (Column.HasSplit unit cells →
              e.value = .int (count * Timestamp.defaultCellUnit.scale)))) ∧
        (¬ Column.HasSplit unit cells → ∀ shape,
          ((run table calls).decode shape (table.batch n) index).1.1 =
            ((run table calls').decode shape (table.batch m) index).1.1) := by
  simp only [decode_run, Memory.inForce_own hown, Memory.inForce_own hown']
  obtain ⟨hlength, hholds⟩ := holds_of_isTable htable hfield hcells
  have hi : i < cells.length := hlength ▸ lt_of_position? hindex
  obtain ⟨htable', hsame⟩ := isTable_of_plain htable hfield htype hplain
  have hindex' : position? (table.batch m).rowCount index = some i := by rw [hsame, hindex]
  have hpair : ((table n).1.zip (table n).2)[k]? = some (field, cells) :=
    List.getElem?_zip_eq_some.mpr ⟨hfield, hcells⟩
  obtain ⟨before, behind, hcolumns, hset, rfl⟩ :=
    exists_beside hpair ({ field with type := .timestamp unit zone }, cells)
  have hcolumns' : (table m).1.zip (table m).2 =
      before ++ ({ field with type := .timestamp unit zone }, cells) :: behind := by
    rw [hplain, set_zip hcells, hset]
  obtain ⟨values, hread⟩ : ∃ values, ((Column.ofField field).read cells).1 = .ok values := by
    rcases Column.read_distinct (c := Column.ofField field) htype hholds hrange with
      ⟨-, values, hread, -⟩ | ⟨-, hread⟩
    · exact ⟨values, hread⟩
    · exact ⟨cells, hread⟩
  have hread' := (Column.read_of_timestamp
    (c := Column.ofField { field with type := .timestamp unit zone }) rfl cells).1
  rcases exists_entries htable htable' hindex hindex' hcolumns hcolumns' hread hread' with
    ⟨fault, hfault, hfault'⟩ | ⟨front, e, e', back, hfront, hstand, hstand', hback, hrow⟩
  · refine .inl ⟨fault, overflowsBeside_of_read hcolumns hread hfault, fun shape => ?_⟩
    rw [rowUnder, rowUnder, hfault, hfault']
    exact ⟨rfl, rfl⟩
  · have hstands : List.Forall₂ (RowEntry.Stands i) ((table n).1.zip (table n).2)
        (front ++ e :: back) := by
      rw [hcolumns]
      exact List.rel_append hfront (.cons hstand hback)
    have hdecoded := RowEntry.isDecoded_of_stands hstands
    have hdecoded' := RowEntry.isDecoded_of_stands (List.rel_append hfront (.cons hstand' hback))
    have hcell := hstand.distinct htype htime hholds hrange hi
    simp only [fun shape => (hrow shape).1, fun shape => (hrow shape).2]
    refine .inr ⟨⟨front, e, back, hfront.length_eq.symm, hstand.column_eq, hstands,
      RowShape.shows_of_agree (agree_decode hdecoded), hcell⟩, fun hwhole => ?_⟩
    obtain ⟨hnamed, hslot⟩ :=
      hstand.distinct_eq_plain hstand' htype htime hholds hrange hi hwhole
    exact RowShape.decode_congr hdecoded hdecoded' hnamed hslot

/-- Batches with the times of arrivals, distinct ones and plain ones. -/
def distinctArrivals : Table := fun n =>
  ([⟨"time", if n = 0 then .dictionary (.timestamp .nano none) else .timestamp .nano none, []⟩],
   [[.int 5000, .null, .int 7000]])

/-- The last arrival is at seven microseconds, in both batches. -/
theorem distinct_arrivals :
    (distinctArrivals.batch 0).IsTable ∧
      (∀ v ∈ [Value.int 5000, .null, .int 7000], ∀ fault,
        (CellType.dictionary (.timestamp .nano none)).read v ≠ .error (.overflow fault)) ∧
      distinctArrivals 1 = ([⟨"time", .timestamp .nano none, []⟩], (distinctArrivals 0).2) ∧
      position? (distinctArrivals.batch 0).rowCount 2 = some 2 ∧
      (Memory.run distinctArrivals []).kept ≠ some 0 ∧
      (Memory.run distinctArrivals [.release]).kept ≠ some 1 ∧
      ∃ e, RowShape.Shows (fun shape =>
          ((run distinctArrivals []).decode shape (distinctArrivals.batch 0) 2).1.1) [] e [] ∧
        e.value = .int 7000 ∧ e.slot? = some .timestamp := by
  have htable : (distinctArrivals.batch 0).IsTable := by decide
  have hrange : ∀ v ∈ [Value.int 5000, .null, .int 7000], ∀ fault,
      (CellType.dictionary (.timestamp .nano none)).read v ≠ .error (.overflow fault) := by
    intro v hv fault
    simp only [List.mem_cons, List.not_mem_nil, or_false] at hv
    rcases hv with rfl | rfl | rfl <;> exact nofun
  have hplain : distinctArrivals 1 =
      ([⟨"time", .timestamp .nano none, []⟩], (distinctArrivals 0).2) := rfl
  have hindex : position? (distinctArrivals.batch 0).rowCount 2 = some 2 := rfl
  have hkept : (Memory.run distinctArrivals []).kept ≠ some 0 := nofun
  have hkept' : (Memory.run distinctArrivals [.release]).kept ≠ some 1 := nofun
  refine ⟨htable, hrange, hplain, hindex, hkept, hkept', ?_⟩
  have hwhole : ¬ Column.HasSplit .nano [.int 5000, .null, .int 7000] := by
    rintro ⟨count, hmem, -, hsplit⟩
    simp only [List.mem_cons, Value.int.injEq, reduceCtorEq, List.not_mem_nil, or_false,
      false_or] at hmem
    omega
  have hrow := distinct_run (k := 0) htable rfl rfl rfl rfl hrange hplain hindex [] [.release]
    (.inl hkept) (.inl hkept')
  rcases hrow with ⟨fault, -, hfault⟩ | ⟨⟨front, e, back, hfront, -, hstands, hshows, hcell⟩, -⟩
  · nomatch (hfault .list).1
  · rcases hcell with ⟨hnull, -⟩ | ⟨count, hcount, hslot, hvalue, -⟩
    · nomatch hnull
    · obtain rfl : 7000 = count := by simpa using hcount
      obtain rfl := List.length_eq_zero_iff.mp hfront
      obtain rfl := List.length_eq_zero_iff.mp (Nat.succ.inj hstands.length_eq.symm)
      exact ⟨e, hshows, hvalue hwhole, hslot⟩

/-- A batch with an arrival between two microseconds. -/
def splitArrivals : Table := fun _ =>
  ([⟨"time", .dictionary (.timestamp .nano none), []⟩], [[.int 1001]])

/-- The arrival is not listed at its time, but a million times as late. -/
theorem not_scaled_splitArrivals :
    (splitArrivals.batch 0).IsTable ∧ position? (splitArrivals.batch 0).rowCount 0 = some 0 ∧
      (Column.ofField ⟨"time", .dictionary (.timestamp .nano none), []⟩).isTime = true ∧
      (∀ fault, (CellType.dictionary (.timestamp .nano none)).read (.int 1001) ≠
        .error (.overflow fault)) ∧
      ¬ ∃ vs, (new.decode .list (splitArrivals.batch 0) 0).1.1 = .ok (.value (.list vs)) ∧
        vs[0]? = some (.int (1001 * Precision.nano.scale)) := by
  have hrow : (new.decode .list (splitArrivals.batch 0) 0).1.1 =
    .ok (.value (.list [.int 1001000000])) := rfl
  refine ⟨by decide, rfl, rfl, nofun, ?_⟩
  rintro ⟨vs, hlist, hvalue⟩
  rw [hrow] at hlist
  cases hlist
  nomatch hvalue

end Decoder

end SeriesClient
