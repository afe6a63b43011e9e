import SeriesClient.Proofs.Batch.ColumnIndependence

set_option relaxedAutoImplicit false
set_option autoImplicit false

/-!
# What a column gives to a row

Each column of a batch has one entry in a row. Its value stands at the place of the column in the
list, under the name of the column in the dictionary, and in the slot that it goes to in the row of
a time series. There, and under the name, a later column may take its place.

## Main definitions

* `SeriesClient.Batch.OverflowsBeside` — a cell of another column is out of range.
* `SeriesClient.RowShape.Shows` — what the shapes of a row have of one of its entries.

## Main results

* `SeriesClient.RowShape.shows_of_agree` — shapes that agree show each entry.
* `SeriesClient.Decoder.exists_entry` — a column that can be read has an entry, or a cell of another
  column is out of range.

## Design

The entries of a row are those before the column, its own, and those behind it, so that its place is
the number of those before it.
-/

namespace SeriesClient

/-- A cell of a column other than the one at a place is beyond what dates and durations can hold.
Timestamps that are stored as such are not, since their counts are not made into dates. -/
def Batch.OverflowsBeside (b : Batch) (k : Nat) (fault : Fault) : Prop :=
  ∃ p ∈ (b.schema.zip b.cells).eraseIdx k,
    p.1.type.unit? = none ∧ ∃ v ∈ p.2, p.1.type.read v = .error (.overflow fault)

/-! ## What is shown of an entry -/

section Shows

variable {decoded : RowShape → Except Fault DecodedRow} {front back : List RowEntry} {e : RowEntry}

/-- What the shapes of a row have of an entry between others: its value is at its place in the list
and under its name in the dictionary; in a row of a time series it is in the slot that it goes to,
and in no other one. -/
structure RowShape.Shows (decoded : RowShape → Except Fault DecodedRow) (front : List RowEntry)
    (e : RowEntry) (back : List RowEntry) : Prop where
  /-- The value is at its place in the list. -/
  list_eq : ∃ vs, decoded .list = .ok (.value (.list vs)) ∧ vs[front.length]? = some e.value
  /-- It is under its name in the dictionary, unless a later column has the name. -/
  dict_eq : ∃ es, decoded .dict = .ok (.value (.dict es)) ∧
    ((∀ e' ∈ back, e'.column.name ≠ e.column.name) →
      OrderedMap.lookup (.text e.column.name) es = some e.value)
  /-- It is in its slot of the row of a time series, unless a later value goes there. All other
  slots have the last of the other values that go to them. -/
  point_eq : ∀ result, decoded .pointValues = .ok result → ∃ pv, result = .point pv ∧
    (∀ slot, e.slot? = some slot → (∀ e' ∈ back, e'.slot? ≠ some slot) →
      pv.at? slot = some e.value) ∧
    ∀ slot, e.slot? ≠ some slot → pv.at? slot =
      (((front ++ back).filterMap RowEntry.routed?).filter (·.1 = slot)).getLast?.map Prod.snd
  /-- There is a row of a time series unless a field has no name. -/
  point_ok : (∀ e' ∈ front ++ e :: back, e'.slot? ≠ some (.field "")) →
    ∃ result, decoded .pointValues = .ok result

/-- The last value that is stored under a text counts. -/
lemma OrderedMap.find?_ofList_last {α : Type} {before behind : List (Value × α)} {s : String}
    (a : α) (h : ∀ entry ∈ behind, ∃ t, entry.1 = .text t ∧ t ≠ s) :
    (ofList (before ++ (.text s, a) :: behind)).find? (.text s) = some a := by
  simp only [ofList, insertAll, List.foldl_append, List.foldl_cons]
  generalize hm : (before.foldl (fun m entry => m.insert entry.1 entry.2) empty).insert
    (.text s) a = m
  have hfound : m.find? (.text s) = some a := by
    rw [← hm, find?_insert_text, if_pos rfl]
  clear hm
  induction behind generalizing m with
  | nil => exact hfound
  | cons entry rest ih =>
    obtain ⟨t, ht, hne⟩ := h entry List.mem_cons_self
    refine ih (fun entry' hentry' => h entry' (List.mem_cons_of_mem _ hentry')) _ ?_
    dsimp only
    rw [ht, find?_insert_text, if_neg hne]
    exact hfound

/-- Of the values that go to a slot, the one of an entry is the last if no later one goes there. -/
lemma RowEntry.getLast?_routed {slot : Slot} (hslot : e.slot? = some slot)
    (hback : ∀ e' ∈ back, e'.slot? ≠ some slot) :
    (((front ++ e :: back).filterMap routed?).filter (·.1 = slot)).getLast? =
      some (slot, e.value) := by
  have hrouted : e.routed? = some (slot, e.value) := by rw [routed?, hslot, Option.map_some]
  have hnone : (back.filterMap routed?).filter (·.1 = slot) = [] := by
    refine List.filter_eq_nil_iff.mpr fun r hr hsame => ?_
    obtain ⟨e', he', hr⟩ := List.mem_filterMap.mp hr
    obtain ⟨slot', hslot', rfl⟩ := Option.map_eq_some_iff.mp hr
    exact hback e' he' (hslot'.trans (congrArg some (of_decide_eq_true hsame)))
  rw [List.filterMap_append, List.filterMap_cons_some hrouted, List.filter_append,
    List.filter_cons_of_pos (by simp), hnone, List.getLast?_concat]

/-- **Shapes that agree show each entry** of their row. -/
theorem RowShape.shows_of_agree (h : Agree decoded (front ++ e :: back)) :
    Shows decoded front e back := by
  constructor
  · refine ⟨_, h.list_eq, ?_⟩
    rw [List.getElem?_map, List.getElem?_append_right (Nat.le_refl _), Nat.sub_self]
    rfl
  · refine ⟨_, h.dict_eq, fun hback => ?_⟩
    rw [List.map_append, List.map_cons]
    refine OrderedMap.find?_ofList_last e.value fun entry hentry => ?_
    obtain ⟨e', he', rfl⟩ := List.mem_map.mp hentry
    exact ⟨e'.column.name, rfl, hback e' he'⟩
  · intro result hresult
    obtain ⟨pv, rfl, hmade⟩ := h.point_eq result hresult
    refine ⟨pv, rfl, fun slot hslot hback => ?_, fun slot hslot => ?_⟩
    · rw [hmade.at?_eq, RowEntry.getLast?_routed hslot hback, Option.map_some]
    · rw [hmade.at?_eq, RowEntry.filter_routed hslot]
  · exact h.point_ok

end Shows

/-! ## Reading beside a column -/

/-- The cell of an entry is the one that reading its column gives. -/
lemma RowEntry.Stands.raw_of_read {i : Nat} {p : Field × List Value} {e : RowEntry}
    (h : Stands i p e) {values : List Value}
    (hread : ((Column.ofField p.1).read p.2).1 = .ok values) : values[i]? = some e.raw := by
  obtain ⟨values', hread', hraw⟩ := h.raw_eq
  rw [h.column_eq] at hread'
  obtain rfl : values = values' := Except.ok.inj (hread.symm.trans hread')
  exact hraw

/-- A column that cannot be read has a cell out of range, and is not stored as timestamps. -/
lemma Column.exists_of_read_eq_error {c : Column} {cells : List Value} {fault : Fault}
    (h : (c.read cells).1 = .error fault) :
    c.type.unit? = none ∧ ∃ v ∈ cells, c.type.read v = .error (.overflow fault) := by
  unfold read at h
  split at h
  · cases h
  · next htype =>
    split at h
    · cases h
    · next hcells =>
      obtain rfl := Except.error.inj h
      refine ⟨?_, exists_of_mapM_eq_error hcells⟩
      unfold CellType.unit?
      split
      · next hunit => exact absurd hunit (htype _ _)
      · rfl
    · cases h

namespace Decoder

variable {table : Table} {n : Nat} {before behind : List (Field × List Value)} {field : Field}
  {cells values : List Value}

/-- If a column can be read but its batch cannot, a cell of another column is out of range. -/
lemma overflowsBeside_of_read
    (hcolumns : (table n).1.zip (table n).2 = before ++ (field, cells) :: behind)
    (hread : ((Column.ofField field).read cells).1 = .ok values) {fault : Fault}
    (hfault : (valuesOf table n).1 = .error fault) :
    (table.batch n).OverflowsBeside before.length fault := by
  rw [valuesOf_fst] at hfault
  obtain ⟨p, hp, hpfault⟩ := exists_of_mapM_eq_error hfault
  refine ⟨p, ?_, Column.exists_of_read_eq_error hpfault⟩
  change p ∈ ((table n).1.zip (table n).2).eraseIdx before.length
  rw [hcolumns] at hp ⊢
  rw [List.eraseIdx_append_of_length_le (Nat.le_refl _), Nat.sub_self, List.eraseIdx_cons_zero]
  rcases List.mem_append.mp hp with hbefore | hp
  · exact List.mem_append_left _ hbefore
  · rcases List.mem_cons.mp hp with rfl | hbehind
    · nomatch hpfault.symm.trans hread
    · exact List.mem_append_right _ hbehind

/-- **A column that can be read has an entry in each row**, unless a cell of another column is out
of range; then there are no rows. -/
theorem exists_entry (htable : (table.batch n).IsTable) {index : Int} {i : Nat}
    (hindex : position? (table.batch n).rowCount index = some i)
    (hcolumns : (table n).1.zip (table n).2 = before ++ (field, cells) :: behind)
    (hread : ((Column.ofField field).read cells).1 = .ok values) :
    (∃ fault, (valuesOf table n).1 = .error fault ∧
        (table.batch n).OverflowsBeside before.length fault) ∨
      ∃ front e back, List.Forall₂ (RowEntry.Stands i) before front ∧
        RowEntry.Stands i (field, cells) e ∧ List.Forall₂ (RowEntry.Stands i) behind back ∧
        ∀ shape, rowUnder table n (table n).1 shape index =
          (shape.decode ((front ++ e :: back).map RowEntry.cell)).1 := by
  rcases rowUnder_outcome htable hindex (lt_of_position? hindex) with
    ⟨fault, hfault, -⟩ | ⟨row, hstands, hrow⟩
  · exact .inl ⟨fault, hfault, overflowsBeside_of_read hcolumns hread hfault⟩
  · rw [hcolumns] at hstands
    obtain ⟨front, e, back, rfl, hfront, hstand, hback⟩ := forall₂_beside hstands
    exact .inr ⟨front, e, back, hfront, hstand, hback, hrow⟩

end Decoder

end SeriesClient
