import SeriesClient.Proofs.Batch.RowIndependence

set_option relaxedAutoImplicit false
set_option autoImplicit false

/-!
# What a column owes to the other columns

Two batches that differ in the cells of one column have rows that differ in what this column gives:
a place of the list, an entry of the dictionary, a slot of the row of a time series. The one way in
which a column can do harm to the others is by a cell that is out of range, which leaves the batch
without rows.

## Main definitions

* `SeriesClient.Column.Owns` — the slots that the cells of a column can go to.
* `SeriesClient.RowShape.AgreeBeside` — two rows agree beside what one column gives.

## Main results

* `SeriesClient.RowEntry.Stands.unique` — a column has one entry in a row.
* `SeriesClient.RowShape.agreeBeside_of_rows` — rows of equal entries but for one agree beside it.
* `SeriesClient.Decoder.exists_entries` — batches that differ in one column have such rows.
* `SeriesClient.Decoder.beside_run` — columns are decoded apart, or a cell is out of range.
* `SeriesClient.Decoder.not_beside_farHost` — a column that is lost with another one.

## Design

Lists that differ in one item are written as the same items before and after it.
-/

namespace SeriesClient

/-! ## Lists that differ in one item -/

section Beside

variable {α β : Type}

/-- Replacing an item leaves what stands before and after it. -/
lemma exists_beside {l : List α} {k : Nat} {a : α} (h : l[k]? = some a) (b : α) :
    ∃ before behind, l = before ++ a :: behind ∧ l.set k b = before ++ b :: behind ∧
      before.length = k := by
  induction l generalizing k with
  | nil => nomatch h
  | cons c rest ih =>
    cases k with
    | zero =>
      obtain rfl := Option.some.inj h
      exact ⟨[], rest, rfl, rfl, rfl⟩
    | succ k =>
      obtain ⟨before, behind, hsame, hset, hlength⟩ := ih h
      refine ⟨c :: before, behind, congrArg (c :: ·) hsame, congrArg (c :: ·) hset, ?_⟩
      rw [List.length_cons, hlength]

/-- Replacing an item of one of two lists replaces a pair of them. -/
lemma zip_set {l : List α} {l' : List β} {k : Nat} {a : α} (h : l[k]? = some a) (b : β) :
    l.zip (l'.set k b) = (l.zip l').set k (a, b) := by
  induction l generalizing l' k with
  | nil => nomatch h
  | cons c rest ih =>
    cases l' with
    | nil => rfl
    | cons c' rest' =>
      cases k with
      | zero =>
        obtain rfl := Option.some.inj h
        rfl
      | succ k => exact congrArg ((c, c') :: ·) (ih h)

/-- What stands for a list with an item stands for what is before it, for the item and for what is
behind it. -/
lemma forall₂_beside {R : α → β → Prop} {before behind : List α} {a : α} {row : List β}
    (h : List.Forall₂ R (before ++ a :: behind) row) :
    ∃ front b back, row = front ++ b :: back ∧ List.Forall₂ R before front ∧ R a b ∧
      List.Forall₂ R behind back := by
  induction before generalizing row with
  | nil =>
    obtain ⟨b, back, hb, hback, rfl⟩ := List.forall₂_cons_left_iff.mp h
    exact ⟨[], b, back, rfl, .nil, hb, hback⟩
  | cons c before ih =>
    obtain ⟨d, rest, hd, hrest, rfl⟩ := List.forall₂_cons_left_iff.mp h
    obtain ⟨front, b, back, rfl, hfront, hb, hback⟩ := ih hrest
    exact ⟨d :: front, b, back, rfl, .cons hd hfront, hb, hback⟩

end Beside

/-! ## Maps that differ in one entry -/

namespace OrderedMap

variable {α : Type}

/-- Maps in which the same is found under a text go on to agree on it while the same values are
stored under texts. -/
lemma find?_insertAll_text {m m' : OrderedMap Value α} {t : String}
    (h : m.find? (.text t) = m'.find? (.text t)) {entries : List (Value × α)}
    (htexts : ∀ e ∈ entries, ∃ s, e.1 = .text s) :
    (m.insertAll entries).find? (.text t) = (m'.insertAll entries).find? (.text t) := by
  induction entries generalizing m m' with
  | nil => exact h
  | cons e rest ih =>
    obtain ⟨s, hs⟩ := htexts e List.mem_cons_self
    refine @ih (m.insert e.1 e.2) (m'.insert e.1 e.2) ?_
      fun e' he' => htexts e' (List.mem_cons_of_mem _ he')
    rw [hs, find?_insert_text, find?_insert_text, h]

/-- What is stored under a text does not matter under another one. -/
lemma find?_ofList_beside {before behind : List (Value × α)} {s t : String} (hne : s ≠ t)
    (a b : α) (htexts : ∀ e ∈ behind, ∃ s, e.1 = .text s) :
    (ofList (before ++ (.text s, a) :: behind)).find? (.text t) =
      (ofList (before ++ (.text s, b) :: behind)).find? (.text t) := by
  simp only [ofList, insertAll, List.foldl_append, List.foldl_cons]
  refine find?_insertAll_text ?_ htexts
  rw [find?_insert_text, find?_insert_text, if_neg hne, if_neg hne]

end OrderedMap

/-! ## The slots of a column -/

/-- The slots that the cells of a column can go to: the measurement or the timestamp, if it is a
column for them, and the tag and the field of its name. -/
def Column.Owns (c : Column) : Slot → Prop
  | .measurement => c.isMeasurement = true
  | .timestamp => c.isTime = true
  | .tag name | .field name => name = c.name

namespace RowEntry

/-- A column that is declared as the timestamp is one. -/
lemma isTime_of_role {c : Column} (h : c.role = some .timestamp) : c.isTime = true := by
  simp [Column.isTime, h]

/-- A cell goes to a slot of its column. -/
lemma owns_of_slot? {e : RowEntry} {slot : Slot} (h : e.slot? = some slot) :
    e.column.Owns slot := by
  unfold slot? at h
  split at h
  · nomatch h
  · split at h
    · next hnamed =>
      obtain rfl := Option.some.inj h
      exact (Bool.and_eq_true_iff.mp hnamed).1
    · split at h
      · obtain rfl := Option.some.inj h
        split
        · next htime => exact (Bool.and_eq_true_iff.mp htime).1
        · rfl
      · obtain rfl := Option.some.inj h
        rfl
      · split at h
        · obtain rfl := Option.some.inj h
          rfl
        · nomatch h
      · next hrole =>
        split at h
        · obtain rfl := Option.some.inj h
          exact isTime_of_role hrole
        · nomatch h
      · nomatch h

/-- A column has one entry in a row. -/
theorem Stands.unique {i : Nat} {p : Field × List Value} {e e' : RowEntry} (h : Stands i p e)
    (h' : Stands i p e') : e = e' := by
  obtain ⟨c, v, w⟩ := e
  obtain ⟨c', v', w'⟩ := e'
  obtain rfl : c = c' := h.column_eq.trans h'.column_eq.symm
  obtain ⟨values, hread, hraw⟩ := h.raw_eq
  obtain ⟨values', hread', hraw'⟩ := h'.raw_eq
  obtain rfl : values = values' := Except.ok.inj (hread.symm.trans hread')
  obtain rfl : v = v' := Option.some.inj (hraw.symm.trans hraw')
  obtain rfl : w = w' := Except.ok.inj (h.isDecoded.cell_eq.symm.trans h'.isDecoded.cell_eq)
  rfl

/-- Columns have the same entries in a row. -/
lemma Stands.unique_all {i : Nat} {columns : List (Field × List Value)} {row row' : List RowEntry}
    (h : List.Forall₂ (Stands i) columns row) (h' : List.Forall₂ (Stands i) columns row') :
    row = row' :=
  Relator.RightUnique.forall₂ (R := Stands i) (fun _ _ _ => Stands.unique) h h'

/-- An entry that does not go to a slot is none of those that do. -/
lemma filter_routed {front back : List RowEntry} {e : RowEntry} {slot : Slot}
    (hslot : e.slot? ≠ some slot) :
    ((front ++ e :: back).filterMap routed?).filter (·.1 = slot) =
      ((front ++ back).filterMap routed?).filter (·.1 = slot) := by
  rcases hnone : e.slot? with _ | slot'
  · have hrouted : e.routed? = none := by rw [routed?, hnone, Option.map_none]
    rw [List.filterMap_append, List.filterMap_append, List.filterMap_cons_none hrouted]
  · have hrouted : e.routed? = some (slot', e.value) := by rw [routed?, hnone, Option.map_some]
    have hother : ¬ slot' = slot := by
      rintro rfl
      exact hslot hnone
    rw [List.filterMap_append, List.filterMap_append, List.filterMap_cons_some hrouted,
      List.filter_append, List.filter_append, List.filter_cons_of_neg (by simpa using hother)]

end RowEntry

/-- Two rows agree beside what one column gives: their lists at all other places, their dictionaries
under all other names, and their rows of a time series, if there are any, in all slots that are not
those of the column. -/
structure RowShape.AgreeBeside (decoded decoded' : RowShape → Except Fault DecodedRow) (k : Nat)
    (c : Column) : Prop where
  /-- The lists are as long as each other and have the same values at all other places. -/
  list_eq : ∃ vs vs', decoded .list = .ok (.value (.list vs)) ∧
    decoded' .list = .ok (.value (.list vs')) ∧ vs.length = vs'.length ∧
    ∀ j, j ≠ k → vs[j]? = vs'[j]?
  /-- The dictionaries have the same values under all other names. -/
  dict_eq : ∃ es es', decoded .dict = .ok (.value (.dict es)) ∧
    decoded' .dict = .ok (.value (.dict es')) ∧
    ∀ name, name ≠ c.name →
      OrderedMap.lookup (.text name) es = OrderedMap.lookup (.text name) es'
  /-- The rows of a time series have the same in all slots that the column does not own. -/
  point_eq : ∀ result result', decoded .pointValues = .ok result →
    decoded' .pointValues = .ok result' →
    ∃ pv pv', result = .point pv ∧ result' = .point pv' ∧
      ∀ slot, ¬ c.Owns slot → pv.at? slot = pv'.at? slot

/-- **Rows of equal entries but for one agree beside it.** -/
theorem RowShape.agreeBeside_of_rows {decoded decoded' : RowShape → Except Fault DecodedRow}
    {front back : List RowEntry} {e e' : RowEntry} (hcolumn : e.column = e'.column)
    (h : Agree decoded (front ++ e :: back)) (h' : Agree decoded' (front ++ e' :: back)) :
    AgreeBeside decoded decoded' front.length e.column := by
  constructor
  · refine ⟨_, _, h.list_eq, h'.list_eq, by simp, fun j hj => ?_⟩
    rw [List.getElem?_map, List.getElem?_map]
    congr 1
    rcases Nat.lt_or_gt_of_ne hj with hbefore | hbehind
    · rw [List.getElem?_append_left hbefore, List.getElem?_append_left hbefore]
    · obtain ⟨d, rfl⟩ := Nat.exists_eq_add_of_lt hbehind
      rw [List.getElem?_append_right (by omega), List.getElem?_append_right (by omega)]
      have hoffset : front.length + d + 1 - front.length = d + 1 := by omega
      rw [hoffset, List.getElem?_cons_succ, List.getElem?_cons_succ]
  · refine ⟨_, _, h.dict_eq, h'.dict_eq, fun name hname => ?_⟩
    simp only [List.map_append, List.map_cons, RowEntry.named, ← hcolumn]
    refine OrderedMap.find?_ofList_beside (Ne.symm hname) e.value e'.value fun entry hentry => ?_
    obtain ⟨e'', -, rfl⟩ := List.mem_map.mp hentry
    exact ⟨e''.column.name, rfl⟩
  · intro result result' hresult hresult'
    obtain ⟨pv, rfl, hmade⟩ := h.point_eq result hresult
    obtain ⟨pv', rfl, hmade'⟩ := h'.point_eq result' hresult'
    refine ⟨pv, pv', rfl, rfl, fun slot howns => ?_⟩
    -- nothing of either entry goes to the slot
    have hslot : e.slot? ≠ some slot := fun h => howns (RowEntry.owns_of_slot? h)
    have hslot' : e'.slot? ≠ some slot := fun h => howns (hcolumn ▸ RowEntry.owns_of_slot? h)
    rw [hmade.at?_eq, hmade'.at?_eq, RowEntry.filter_routed hslot, RowEntry.filter_routed hslot']

namespace Decoder

/-- The values of a batch are those of its columns. -/
lemma valuesOf_fst (table : Table) (n : Nat) :
    (valuesOf table n).1 =
      ((table n).1.zip (table n).2).mapM fun p => ((Column.ofField p.1).read p.2).1 := by
  rw [valuesOf, readAll_fst, List.zip_map_left, List.mapM_map]
  rfl

/-- The same fault keeps two batches from being read if they differ in columns that can be read. -/
lemma errorOf?_mapM_beside {ε α β : Type} {f : α → Except ε β} {before behind : List α} {a a' : α}
    {b b' : β} (ha : f a = .ok b) (ha' : f a' = .ok b') :
    errorOf? ((before ++ a :: behind).mapM f) = errorOf? ((before ++ a' :: behind).mapM f) := by
  have hnone : errorOf? (f a) = none := by rw [ha, errorOf?]
  have hnone' : errorOf? (f a') = none := by rw [ha', errorOf?]
  simp only [errorOf?_mapM, List.findSome?_append, List.findSome?_cons, hnone, hnone']

/-- A batch has no rows if one of its columns cannot be read because a cell is out of range. -/
lemma rowUnder_of_unread {table : Table} {n : Nat} (htable : (table.batch n).IsTable)
    {index : Int} {i : Nat} (hindex : position? (table.batch n).rowCount index = some i)
    {before behind : List (Field × List Value)} {p : Field × List Value}
    (hcolumns : (table n).1.zip (table n).2 = before ++ p :: behind) {fault : Fault}
    (hread : ((Column.ofField p.1).read p.2).1 = .error fault) :
    (∃ v ∈ p.2, p.1.type.read v = .error (.overflow fault)) ∧
      ∃ fault', ∀ shape, rowUnder table n (table n).1 shape index = .error fault' := by
  have hp : p ∈ (table n).1.zip (table n).2 := by
    rw [hcolumns]
    exact List.mem_append_right _ List.mem_cons_self
  constructor
  · have hholds : ∀ v ∈ p.2, p.1.type.holds v = true :=
      ((List.forall₂_iff_zip.mp htable).2 hp).2
    rcases Column.read_outcome (c := Column.ofField p.1) hholds with
      ⟨fault', hfault, hoverflow⟩ | ⟨values, hvalues, -⟩
    · obtain rfl : fault = fault' := Except.error.inj (hread.symm.trans hfault)
      exact hoverflow
    · nomatch hread.symm.trans hvalues
  · rcases rowUnder_outcome htable hindex (lt_of_position? hindex) with
      ⟨fault', hfault, -⟩ | ⟨row, hstands, -⟩
    · refine ⟨fault', fun shape => ?_⟩
      rw [rowUnder, hfault]
    · rw [hcolumns] at hstands
      obtain ⟨front, e, back, -, -, hstand, -⟩ := forall₂_beside hstands
      obtain ⟨values, hvalues, -⟩ := hstand.raw_eq
      rw [hstand.column_eq] at hvalues
      nomatch hread.symm.trans hvalues

/-- **Batches that differ in a column that can be read in both have rows of the same entries but for
that one**, or cannot be read for the same cell. -/
theorem exists_entries {table : Table} {n m : Nat} (htable : (table.batch n).IsTable)
    (htable' : (table.batch m).IsTable) {index : Int} {i : Nat}
    (hindex : position? (table.batch n).rowCount index = some i)
    (hindex' : position? (table.batch m).rowCount index = some i)
    {before behind : List (Field × List Value)} {p p' : Field × List Value}
    (hcolumns : (table n).1.zip (table n).2 = before ++ p :: behind)
    (hcolumns' : (table m).1.zip (table m).2 = before ++ p' :: behind)
    {values values' : List Value} (hread : ((Column.ofField p.1).read p.2).1 = .ok values)
    (hread' : ((Column.ofField p'.1).read p'.2).1 = .ok values') :
    (∃ fault, (valuesOf table n).1 = .error fault ∧ (valuesOf table m).1 = .error fault) ∨
      ∃ front e e' back, List.Forall₂ (RowEntry.Stands i) before front ∧
        RowEntry.Stands i p e ∧ RowEntry.Stands i p' e' ∧
        List.Forall₂ (RowEntry.Stands i) behind back ∧
        ∀ shape, rowUnder table n (table n).1 shape index =
            (shape.decode ((front ++ e :: back).map RowEntry.cell)).1 ∧
          rowUnder table m (table m).1 shape index =
            (shape.decode ((front ++ e' :: back).map RowEntry.cell)).1 := by
  have herrors : errorOf? (valuesOf table n).1 = errorOf? (valuesOf table m).1 := by
    rw [valuesOf_fst, valuesOf_fst, hcolumns, hcolumns']
    exact errorOf?_mapM_beside hread hread'
  rcases rowUnder_outcome htable hindex (lt_of_position? hindex) with
    ⟨fault, hfault, -⟩ | ⟨row, hstands, hrow⟩
  · refine .inl ⟨fault, hfault, ?_⟩
    rw [hfault] at herrors
    exact errorOf?_eq_some_iff.mp herrors.symm
  · rcases rowUnder_outcome htable' hindex' (lt_of_position? hindex') with
      ⟨fault, hfault, -⟩ | ⟨row', hstands', hrow'⟩
    · refine .inl ⟨fault, ?_, hfault⟩
      rw [hfault] at herrors
      exact errorOf?_eq_some_iff.mp herrors
    rw [hcolumns] at hstands
    rw [hcolumns'] at hstands'
    obtain ⟨front, e, back, rfl, hfront, hstand, hback⟩ := forall₂_beside hstands
    obtain ⟨front', e', back', rfl, hfront', hstand', hback'⟩ := forall₂_beside hstands'
    obtain rfl := RowEntry.Stands.unique_all hfront hfront'
    obtain rfl := RowEntry.Stands.unique_all hback hback'
    exact .inr ⟨front, e, e', back, hfront, hstand, hstand', hback,
      fun shape => ⟨hrow shape, hrow' shape⟩⟩

/-- Batches that differ in the cells of a column that can be read in both have rows that agree
beside it, or cannot be read for the same cell. -/
lemma rowUnder_beside {table : Table} {n m : Nat} (htable : (table.batch n).IsTable)
    (htable' : (table.batch m).IsTable) {index : Int} {i : Nat}
    (hindex : position? (table.batch n).rowCount index = some i)
    (hindex' : position? (table.batch m).rowCount index = some i)
    {before behind : List (Field × List Value)} {field : Field} {cells cells' : List Value}
    (hcolumns : (table n).1.zip (table n).2 = before ++ (field, cells) :: behind)
    (hcolumns' : (table m).1.zip (table m).2 = before ++ (field, cells') :: behind)
    {values values' : List Value} (hread : ((Column.ofField field).read cells).1 = .ok values)
    (hread' : ((Column.ofField field).read cells').1 = .ok values') :
    (∃ fault, (table.batch n).Overflows fault ∧
        ∀ shape, rowUnder table n (table n).1 shape index = .error fault ∧
          rowUnder table m (table m).1 shape index = .error fault) ∨
      RowShape.AgreeBeside (fun shape => rowUnder table n (table n).1 shape index)
        (fun shape => rowUnder table m (table m).1 shape index) before.length
        (Column.ofField field) := by
  rcases exists_entries htable htable' hindex hindex' hcolumns hcolumns' hread hread' with
    ⟨fault, hfault, hfault'⟩ | ⟨front, e, e', back, hfront, hstand, hstand', hback, hrow⟩
  · rcases htable.valuesOf_outcome with ⟨fault', hsame, hoverflow⟩ | ⟨_, hvalues, -⟩
    · obtain rfl : fault = fault' := Except.error.inj (hfault.symm.trans hsame)
      refine .inl ⟨fault, hoverflow, fun shape => ?_⟩
      rw [rowUnder, rowUnder, hfault, hfault']
      exact ⟨rfl, rfl⟩
    · cases hfault.symm.trans hvalues
  · right
    have hcolumn : e.column = e'.column := hstand.column_eq.trans hstand'.column_eq.symm
    have hdecoded := RowEntry.isDecoded_of_stands (List.rel_append hfront (.cons hstand hback))
    have hdecoded' := RowEntry.isDecoded_of_stands (List.rel_append hfront (.cons hstand' hback))
    simp only [fun shape => (hrow shape).1, fun shape => (hrow shape).2]
    rw [hfront.length_eq, ← hstand.column_eq]
    exact RowShape.agreeBeside_of_rows hcolumn (agree_decode hdecoded) (agree_decode hdecoded')

/-- **Columns are decoded apart, unless a cell is out of range.** Let two batches as they come from
the server have the same schema and as many rows, and differ in the cells of one column only. Let a
decoder be asked for a row of each, at the same index in range, after any calls that have left the
schema of the batch in force. If a cell of the column is out of range, its batch has no rows in any
shape. If a cell of another column is, neither batch has, for this cell. In all other cases the rows
agree beside the column: the lists at all other places, the dictionaries under all other names, and
the rows of a time series, as far as there are any, in all slots that are not those of the column.

**Proof sketch.** A column has one entry in a row, whatever the other columns hold. So the rows have
the same entries but for one, whose value goes to a place, a name and a slot of its column. -/
theorem beside_run {table : Table} {n m k : Nat} {field : Field} {cells cells' : List Value}
    (htable : (table.batch n).IsTable) (htable' : (table.batch m).IsTable)
    (hfield : (table n).1[k]? = some field) (hcells : (table n).2[k]? = some cells)
    (hbeside : table m = ((table n).1, (table n).2.set k cells'))
    (hsame : (table.batch m).rowCount = (table.batch n).rowCount) (index : Int)
    (hindex : -((table.batch n).rowCount : Int) ≤ index)
    (hcount : index < (table.batch n).rowCount) (calls calls' : List Call)
    (hown : (Memory.run table calls).kept ≠ some n ∨
      (Memory.run table calls).asked = some (table n).1)
    (hown' : (Memory.run table calls').kept ≠ some m ∨
      (Memory.run table calls').asked = some (table m).1) :
    ((∃ fault, ∃ v ∈ cells, field.type.read v = .error (.overflow fault)) ∧
        ∃ fault, ∀ shape,
          ((run table calls).decode shape (table.batch n) index).1.1 = .error fault) ∨
      ((∃ fault, ∃ v ∈ cells', field.type.read v = .error (.overflow fault)) ∧
        ∃ fault, ∀ shape,
          ((run table calls').decode shape (table.batch m) index).1.1 = .error fault) ∨
      (∃ fault, (table.batch n).Overflows fault ∧
        ∀ shape, ((run table calls).decode shape (table.batch n) index).1.1 = .error fault ∧
          ((run table calls').decode shape (table.batch m) index).1.1 = .error fault) ∨
      RowShape.AgreeBeside
        (fun shape => ((run table calls).decode shape (table.batch n) index).1.1)
        (fun shape => ((run table calls').decode shape (table.batch m) index).1.1) k
        (Column.ofField field) := by
  simp only [decode_run, Memory.inForce_own hown, Memory.inForce_own hown']
  obtain ⟨i, hi, -⟩ := exists_position hindex hcount
  have hi' : position? (table.batch m).rowCount index = some i := by rw [hsame, hi]
  have hpair : ((table n).1.zip (table n).2)[k]? = some (field, cells) :=
    List.getElem?_zip_eq_some.mpr ⟨hfield, hcells⟩
  obtain ⟨before, behind, hcolumns, hset, rfl⟩ := exists_beside hpair (field, cells')
  have hcolumns' : (table m).1.zip (table m).2 = before ++ (field, cells') :: behind := by
    rw [hbeside, zip_set hfield, hset]
  rcases hread : ((Column.ofField field).read cells).1 with fault | values
  · obtain ⟨hoverflow, hfault⟩ := rowUnder_of_unread htable hi hcolumns hread
    exact .inl ⟨⟨fault, hoverflow⟩, hfault⟩
  · rcases hread' : ((Column.ofField field).read cells').1 with fault | values'
    · obtain ⟨hoverflow, hfault⟩ := rowUnder_of_unread htable' hi' hcolumns' hread'
      exact .inr (.inl ⟨⟨fault, hoverflow⟩, hfault⟩)
    · exact .inr (.inr (rowUnder_beside htable htable' hi hi' hcolumns hcolumns' hread hread'))

/-- Batches with a tag and a count of one name, and with a load. The load is a number in one batch,
and missing in the other one. -/
def loads : Table := fun n =>
  ([⟨"host", .text .plain, [(Column.roleKey, "iox::column_type::tag")]⟩,
    ⟨"load", .floating .double, []⟩, ⟨"host", .integer true 64, []⟩],
   [[.text "a", .text "b"], if n = 0 then [.null, .null] else [.null, .float (.finite false 1 0)],
    [.int 1, .int 2]])

/-- The last rows agree beside the load. -/
theorem beside_loads :
    (loads.batch 0).IsTable ∧ (loads.batch 1).IsTable ∧
      (Memory.run loads []).kept ≠ some 0 ∧ (Memory.run loads [.columns []]).kept ≠ some 1 ∧
      RowShape.AgreeBeside (fun shape => ((run loads []).decode shape (loads.batch 0) (-1)).1.1)
        (fun shape => ((run loads [.columns []]).decode shape (loads.batch 1) (-1)).1.1) 1
        (Column.ofField ⟨"load", .floating .double, []⟩) := by
  have htable : (loads.batch 0).IsTable := by decide
  have htable' : (loads.batch 1).IsTable := by decide
  have hkept : (Memory.run loads []).kept ≠ some 0 := nofun
  have hkept' : (Memory.run loads [.columns []]).kept ≠ some 1 := nofun
  refine ⟨htable, htable', hkept, hkept', ?_⟩
  have hrow := beside_run (k := 1) htable htable' rfl rfl rfl rfl (-1) (by decide) (by decide) []
    [.columns []] (.inl hkept) (.inl hkept')
  rcases hrow with ⟨-, fault, hfault⟩ | ⟨-, fault, hfault⟩ | ⟨fault, -, hfault⟩ | hagree
  · nomatch hfault .list
  · nomatch hfault .list
  · nomatch (hfault .list).1
  · exact hagree

/-- Batches with a host and a day, which is after the year 9999 in one of them. -/
def farHost : Table := fun n =>
  ([⟨"host", .text .plain, []⟩, ⟨"day", .date false, []⟩],
   [[.text "a"], [.int (if n = 0 then 0 else 2932897)]])

/-- The host is lost with a day that is out of range. -/
theorem not_beside_farHost :
    (farHost.batch 0).IsTable ∧ (farHost.batch 1).IsTable ∧
      farHost 1 = ((farHost 0).1, (farHost 0).2.set 1 [.int 2932897]) ∧
      (∃ vs, (new.decode .list (farHost.batch 0) 0).1.1 = .ok (.value (.list vs)) ∧
        vs[0]? = some (.text "a")) ∧
      ¬ ∃ vs, (new.decode .list (farHost.batch 1) 0).1.1 = .ok (.value (.list vs)) ∧
        vs[0]? = some (.text "a") := by
  have hfault : (new.decode .list (farHost.batch 1) 0).1.1 = .error (.range .date) := rfl
  refine ⟨by decide, by decide, rfl, ⟨_, rfl, rfl⟩, ?_⟩
  rintro ⟨vs, hlist, -⟩
  rw [hfault] at hlist
  nomatch hlist

end Decoder

end SeriesClient
