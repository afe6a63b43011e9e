import SeriesClient.Proofs.Batch.Shapes

set_option relaxedAutoImplicit false
set_option autoImplicit false

/-!
# Rows that are always decoded

A batch can hold text that is no text, clock readings that are too fine, absent cells, and columns
without a name or with the same name. None of this keeps a row from being decoded, with one
exception: a row of a time series has no field without a name.

## Main definitions

* `SeriesClient.Column.IsNamelessField` — a column of fields without a name.
* `SeriesClient.Decoder.NamelessAt` — a row has a field without a name.

## Main results

* `SeriesClient.RowEntry.slot?_eq_nameless_iff` — the cells that are fields without a name.
* `SeriesClient.Decoder.decode_returns` — a row is decoded in every shape, unless it has one.

## Design

Rows are decoded under the columns in force, which may be those of another batch. So nothing is
assumed about a column and its values belonging together: any column can take any plain value.
-/

namespace SeriesClient

/-! ## Fields without a name -/

/-- A column whose cells are fields without a name: its name is empty, and it is declared as a field
or has no role. -/
def Column.IsNamelessField (c : Column) : Prop :=
  c.name = "" ∧ (c.role = none ∨ ∃ type, c.role = some (.field type))

namespace RowEntry

/-- A field without a name comes from a cell of a column without a name, and no other does. -/
theorem slot?_eq_nameless_iff {e : RowEntry} :
    e.slot? = some (.field "") ↔ e.column.IsNamelessField ∧ e.raw ≠ .null := by
  constructor
  · intro h
    have hname : e.column.name = "" := by
      rcases slot?_named h with h | h | h | h
      · nomatch h
      · nomatch h
      · nomatch h
      · exact (Slot.field.inj h).symm
    have hnull : e.raw ≠ .null := by
      intro hnull
      rw [e.slot?_eq_none_iff.mpr (.inl hnull)] at h
      nomatch h
    refine ⟨⟨hname, ?_⟩, hnull⟩
    unfold slot? at h
    split at h
    · nomatch h
    · split at h
      · nomatch h
      · split at h
        · next hrole => exact .inl hrole
        · next type hrole => exact .inr ⟨type, hrole⟩
        · split at h <;> nomatch h
        · split at h <;> nomatch h
        · nomatch h
  · rintro ⟨⟨hname, hrole⟩, hnull⟩
    have hpresent : ¬ e.raw.isNull = true := fun h => hnull (Value.isNull_iff.mp h)
    unfold slot?
    rw [if_neg hpresent]
    rcases hrole with hrole | ⟨type, hrole⟩
    · simp [Column.isMeasurement, Column.isTime, hrole, hname]
    · simp [Column.isMeasurement, hrole, hname]

end RowEntry

namespace Decoder

/-- A row of columns with their values has a field without a name. -/
def NamelessAt (columns : List (Column × List Value)) (i : Nat) : Prop :=
  ∃ p ∈ columns, p.1.IsNamelessField ∧ ∃ v, p.2[i]? = some v ∧ v ≠ .null

/-- A row has a field without a name if one of its entries goes to it. -/
lemma namelessAt_iff {columns : List (Column × List Value)} {i : Nat} {row : List RowEntry}
    (h : List.Forall₂ (RowEntry.Takes i) columns row) :
    NamelessAt columns i ↔ ∃ e ∈ row, e.slot? = some (.field "") := by
  constructor
  · rintro ⟨p, hp, hnameless, v, hv, hnull⟩
    obtain ⟨e, he, htakes⟩ := exists_mem_of_forall₂ h.flip p hp
    have hraw : e.raw = v := Option.some.inj (htakes.raw_eq.symm.trans hv)
    refine ⟨e, he, RowEntry.slot?_eq_nameless_iff.mpr ⟨?_, hraw ▸ hnull⟩⟩
    rw [htakes.column_eq]
    exact hnameless
  · rintro ⟨e, he, hslot⟩
    obtain ⟨p, hp, htakes⟩ := exists_mem_of_forall₂ h e he
    obtain ⟨hnameless, hnull⟩ := RowEntry.slot?_eq_nameless_iff.mp hslot
    rw [htakes.column_eq] at hnameless
    exact ⟨p, hp, hnameless, e.raw, htakes.raw_eq, hnull⟩

/-- **Every row in range is decoded.** Let a decoder be asked for a row in range of a batch as it
comes from the server, after any calls. If no cell of the batch is beyond what dates and durations
can hold, there is a list and a dictionary of the row, whatever else its cells hold and its columns
are named and declared as. There is a row of a time series as well, unless one of the columns in
force is a field without a name and its cell is not absent; then there is none, and that is the
fault.

**Proof sketch.** The values of the batch are plain, so any column can take them, and each part of
the row has a value. Storing a value fails only for the slot of a field without a name. -/
theorem decode_returns {table : Table} {n : Nat} (htable : (table.batch n).IsTable)
    (hrange : ∀ fault, ¬ (table.batch n).Overflows fault) {index : Int}
    (hindex : -((table.batch n).rowCount : Int) ≤ index)
    (hcount : index < (table.batch n).rowCount) (calls : List Call) :
    ∃ i values, position? (table.batch n).rowCount index = some i ∧
      (valuesOf table n).1 = .ok values ∧
      (∃ vs, ((run table calls).decode .list (table.batch n) index).1.1 = .ok (.value (.list vs))) ∧
      (∃ entries, ((run table calls).decode .dict (table.batch n) index).1.1 =
        .ok (.value (.dict entries))) ∧
      (¬ NamelessAt ((((Memory.run table calls).inForce table n).map Column.ofField).zip values) i →
        ∃ pv, ((run table calls).decode .pointValues (table.batch n) index).1.1 =
          .ok (.point pv)) ∧
      (NamelessAt ((((Memory.run table calls).inForce table n).map Column.ofField).zip values) i →
        ((run table calls).decode .pointValues (table.batch n) index).1.1 =
          .error (.invalid .fieldNameEmpty)) := by
  obtain ⟨i, hi, hlt⟩ := exists_position hindex hcount
  simp only [decode_run]
  generalize (Memory.run table calls).inForce table n = schema
  rcases rowUnder_takes htable hi hlt schema with
    ⟨fault, -, hoverflow⟩ | ⟨values, row, hvalues, -, htakes, hrow⟩
  · exact absurd hoverflow (hrange fault)
  have hdecoded : ∀ e ∈ row, e.IsDecoded := by
    intro e he
    obtain ⟨_, _, htake⟩ := exists_mem_of_forall₂ htakes e he
    exact htake.isDecoded
  have hagree := agree_decode hdecoded
  simp only [hrow]
  refine ⟨i, values, hi, hvalues, ⟨_, hagree.list_eq⟩, ⟨_, hagree.dict_eq⟩, fun hnamed => ?_,
    fun hnameless => ?_⟩
  · rw [namelessAt_iff htakes] at hnamed
    rw [decode_pointValues hdecoded, if_neg hnamed]
    exact ⟨_, rfl⟩
  · rw [namelessAt_iff htakes] at hnameless
    rw [decode_pointValues hdecoded, if_pos hnameless]

/-- Two rows with a tag without a name that is no text, two counts of one name, one of them absent,
and a clock reading that is too fine. -/
def oddRows : Table := fun _ =>
  ([⟨"", .text .plain, [(Column.roleKey, "iox::column_type::tag")]⟩,
    ⟨"load", .integer true 64, []⟩,
    ⟨"load", .integer true 64, []⟩,
    ⟨"clock", .time .nano, []⟩],
   [[.bytes [0xff], .text "a"], [.int 1, .int 2], [.null, .int 3], [.int 1001, .int 1000]])

/-- The last of these rows is decoded in every shape. -/
theorem decode_returns_oddRows :
    (oddRows.batch 0).IsTable ∧ (∀ fault, ¬ (oddRows.batch 0).Overflows fault) ∧
      (∃ vs, (new.decode .list (oddRows.batch 0) (-1)).1.1 = .ok (.value (.list vs))) ∧
      (∃ entries, (new.decode .dict (oddRows.batch 0) (-1)).1.1 = .ok (.value (.dict entries))) ∧
      ∃ pv, (new.decode .pointValues (oddRows.batch 0) (-1)).1.1 = .ok (.point pv) := by
  have htable : (oddRows.batch 0).IsTable := by decide
  have hrange : ∀ fault, ¬ (oddRows.batch 0).Overflows fault := by
    have hbytes : Utf8.decode? [0xff] = none := by
      rw [Utf8.decode?, Utf8.characters]
      rfl
    have hfine : CellType.readInstant .nano none 1001 = .error .unreadable := rfl
    obtain ⟨t, hwhole⟩ : ∃ t, CellType.readInstant .nano none 1000 = .ok t := ⟨_, rfl⟩
    simp [Batch.Overflows, Table.batch, oddRows, CellType.read, CellType.readPresent,
      CellType.readText, CellType.count, hbytes, hfine, hwhole, Value.isNull]
  have hindex : -((oddRows.batch 0).rowCount : Int) ≤ -1 := by decide
  obtain ⟨i, values, -, -, hlist, hdict, hpoint, -⟩ :=
    decode_returns htable hrange hindex (by decide) []
  refine ⟨htable, hrange, hlist, hdict, hpoint ?_⟩
  rintro ⟨⟨c, vs⟩, hp, hnameless, -⟩
  have hc : c ∈ (oddRows 0).1.map Column.ofField := (List.of_mem_zip hp).1
  have hnamed : ∀ c ∈ (oddRows 0).1.map Column.ofField, c.name ≠ "" ∨ c.role = some .tag := by
    decide
  rcases hnamed c hc with hname | hrole
  · exact hname hnameless.1
  · rcases hnameless.2 with hnone | ⟨type, hfield⟩
    · rw [hrole] at hnone
      cases hnone
    · rw [hrole] at hfield
      cases hfield

/-- A count without a name. -/
def namelessCount : Table := fun _ => ([⟨"", .integer true 64, []⟩], [[.int 7]])

/-- The count has a list, and no row of a time series. -/
theorem not_decoded_namelessCount :
    (namelessCount.batch 0).IsTable ∧ (∀ fault, ¬ (namelessCount.batch 0).Overflows fault) ∧
      (new.decode .list (namelessCount.batch 0) 0).1.1 = .ok (.value (.list [.int 7])) ∧
      (new.decode .pointValues (namelessCount.batch 0) 0).1.1 =
        .error (.invalid .fieldNameEmpty) := by
  refine ⟨by decide, ?_, rfl, rfl⟩
  simp [Batch.Overflows, Table.batch, namelessCount, CellType.read, CellType.readPresent,
    Value.isNull]

end Decoder

end SeriesClient
