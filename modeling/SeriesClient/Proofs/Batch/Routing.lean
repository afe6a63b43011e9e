import SeriesClient.Batch.Row
import SeriesClient.Proofs.Batch.Reading
import SeriesClient.Proofs.Point.Consistency
import SeriesClient.Proofs.TextKeys

set_option relaxedAutoImplicit false
set_option autoImplicit false

/-!
# Where the cells of a row go

A row of a time series has slots: the measurement, the timestamp, the tags and the fields by
their names. Each cell of a row goes into one of them at most, and the cell that comes last
counts. This says what a row is made of, whatever is checked in between.

## Main definitions

* `SeriesClient.Slot` — the slots of a row.
* `SeriesClient.PointValues.at?` — what a row has in a slot.
* `SeriesClient.RowEntry` — a column with its cell and the value that a list has for it.
* `SeriesClient.RowEntry.slot?` — the slot that a cell goes to.
* `SeriesClient.PointValues.IsMadeFrom` — a row is made of what goes to its slots.

## Main results

* `SeriesClient.RowEntry.slot?_eq_none_iff` — which cells are dropped.
* `SeriesClient.RowEntry.put_eq` — a cell is stored in its slot, as the value that a list has.
* `SeriesClient.PointValues.isMadeFrom_writeAll` — the last value for a slot counts.

## Design

That a cell goes to one slot at most is what makes `SeriesClient.RowEntry.slot?` a function.
-/

namespace SeriesClient

/-- A slot of a row of a time series. -/
inductive Slot where
  /-- The measurement. -/
  | measurement
  /-- The timestamp. -/
  | timestamp
  /-- The tag of a name. -/
  | tag (name : String)
  /-- The field of a name. -/
  | field (name : String)
  deriving DecidableEq

/-- Values that fit into a slot. -/
def Slot.Fits : Slot → Value → Prop
  | .measurement, v => v.isNull = false
  | .timestamp, v => ∃ nanos, v = .int nanos
  | .tag _, _ | .field _, _ => True

/-! ## Slots -/

namespace PointValues

/-- What a row has in a slot. -/
def at? (pv : PointValues) : Slot → Option Value
  | .measurement => if pv.measurement.isNull then none else some pv.measurement
  | .timestamp => pv.timestamp.map .int
  | .tag name => pv.tags.find? (.text name)
  | .field name => pv.fields.find? (.text name)

/-- A row with a value put into a slot. -/
def write (pv : PointValues) (slot : Slot) (v : Value) : PointValues :=
  match slot with
  | .measurement => { pv with measurement := v }
  | .timestamp => { pv with timestamp := match v with | .int nanos => some nanos | _ => none }
  | .tag name => { pv with tags := pv.tags.insert (.text name) v }
  | .field name =>
    { pv with
      fields := pv.fields.insert (.text name) v
      kinds := pv.kinds.insert (.text name) (FieldKind.infer? v) }

/-- A row with values put into slots, one after the other. -/
def writeAll (pv : PointValues) (routed : List (Slot × Value)) : PointValues :=
  routed.foldl (fun pv r => pv.write r.1 r.2) pv

/-- Writing a value changes what is in its slot only. -/
lemma at?_write {slot : Slot} {v : Value} (hfits : slot.Fits v) (pv : PointValues)
    (slot' : Slot) :
    (pv.write slot v).at? slot' = if slot = slot' then some v else pv.at? slot' := by
  cases slot with
  | measurement =>
    have hv : v.isNull = false := hfits
    cases slot' with
    | measurement => simp [at?, write, hv]
    | _ => rfl
  | timestamp =>
    obtain ⟨nanos, rfl⟩ := hfits
    cases slot' <;> rfl
  | tag name =>
    cases slot' with
    | tag name' => simp [at?, write, OrderedMap.find?_insert_text]
    | _ => rfl
  | field name =>
    cases slot' with
    | field name' => simp [at?, write, OrderedMap.find?_insert_text]
    | _ => rfl

/-- Writing a value keeps names apart, and the kind of each field. -/
lemma Consistent.write {pv : PointValues} (hpv : pv.Consistent) (slot : Slot) (v : Value) :
    (pv.write slot v).Consistent := by
  cases slot with
  | measurement => exact ⟨hpv.tags_distinct, hpv.fields_distinct, hpv.kinds_eq⟩
  | timestamp => exact ⟨hpv.tags_distinct, hpv.fields_distinct, hpv.kinds_eq⟩
  | tag name =>
    exact ⟨OrderedMap.distinctKeys_insert hpv.tags_distinct _ _, hpv.fields_distinct,
      hpv.kinds_eq⟩
  | field name =>
    refine ⟨hpv.tags_distinct, OrderedMap.distinctKeys_insert hpv.fields_distinct _ _, ?_⟩
    simp only [PointValues.write, OrderedMap.mapValues_insert, ← hpv.kinds_eq]

/-- A row is made of what goes to its slots: each slot has the last value that goes to it, and
there are no other tags and fields. -/
structure IsMadeFrom (pv : PointValues) (routed : List (Slot × Value)) : Prop where
  /-- A slot has the last of the values that go to it; nothing if there are none. -/
  at?_eq : ∀ slot, pv.at? slot = (routed.filter (·.1 = slot)).getLast?.map Prod.snd
  /-- The name of each tag is that of a slot that a value goes to. -/
  tags_named : ∀ key ∈ pv.tags.keys, ∃ name v, key = .text name ∧ (.tag name, v) ∈ routed
  /-- The name of each field is that of a slot that a value goes to. -/
  fields_named : ∀ key ∈ pv.fields.keys, ∃ name v, key = .text name ∧ (.field name, v) ∈ routed
  /-- Names are apart, and each field has the kind of its value. -/
  consistent : pv.Consistent

/-- A row without anything is made of nothing. -/
lemma isMadeFrom_new : (new .null).IsMadeFrom [] :=
  ⟨fun slot => by cases slot <;> rfl, nofun, nofun, consistent_new .null⟩

/-- A value that is written comes last. -/
lemma IsMadeFrom.write {pv : PointValues} {routed : List (Slot × Value)}
    (h : pv.IsMadeFrom routed) {slot : Slot} {v : Value} (hfits : slot.Fits v) :
    (pv.write slot v).IsMadeFrom (routed ++ [(slot, v)]) := by
  refine ⟨fun slot' => ?_, fun key hkey => ?_, fun key hkey => ?_, h.consistent.write slot v⟩
  · rw [at?_write hfits, List.filter_append, h.at?_eq]
    by_cases hsame : slot = slot'
    · simp [hsame]
    · simp [hsame]
  · have hkeys : (∃ name, slot = .tag name ∧ key = .text name) ∨ key ∈ pv.tags.keys := by
      cases slot with
      | tag name => exact (OrderedMap.mem_keys_insert hkey).symm.imp (fun h => ⟨name, rfl, h⟩) id
      | _ => exact .inr hkey
    rcases hkeys with ⟨name, rfl, rfl⟩ | hkey
    · exact ⟨name, v, rfl, List.mem_append_right _ (List.mem_singleton_self _)⟩
    · obtain ⟨name, w, rfl, hw⟩ := h.tags_named key hkey
      exact ⟨name, w, rfl, List.mem_append_left _ hw⟩
  · have hkeys : (∃ name, slot = .field name ∧ key = .text name) ∨ key ∈ pv.fields.keys := by
      cases slot with
      | field name => exact (OrderedMap.mem_keys_insert hkey).symm.imp (fun h => ⟨name, rfl, h⟩) id
      | _ => exact .inr hkey
    rcases hkeys with ⟨name, rfl, rfl⟩ | hkey
    · exact ⟨name, v, rfl, List.mem_append_right _ (List.mem_singleton_self _)⟩
    · obtain ⟨name, w, rfl, hw⟩ := h.fields_named key hkey
      exact ⟨name, w, rfl, List.mem_append_left _ hw⟩

/-- **The last value for a slot counts**, whatever is written into the others. -/
theorem isMadeFrom_writeAll {routed : List (Slot × Value)} (hfits : ∀ r ∈ routed, r.1.Fits r.2) :
    ((new .null).writeAll routed).IsMadeFrom routed := by
  suffices hfold : ∀ (pv : PointValues) before, pv.IsMadeFrom before →
      (pv.writeAll routed).IsMadeFrom (before ++ routed) from hfold _ [] isMadeFrom_new
  induction routed with
  | nil =>
    intro pv before h
    rw [List.append_nil]
    exact h
  | cons r rest ih =>
    intro pv before h
    rw [List.append_cons]
    exact ih (fun r' hr' => hfits r' (List.mem_cons_of_mem _ hr')) _ _
      (h.write (hfits r List.mem_cons_self))

end PointValues

/-! ## Entries -/

/-- A column with the cell that a row has in it, and the value that a list has for the cell. -/
structure RowEntry where
  /-- The column. -/
  column : Column
  /-- The cell. -/
  raw : Value
  /-- The value that a list has for it. -/
  value : Value

namespace RowEntry

/-- A cell that can be taken by its column as a value. -/
structure IsDecoded (e : RowEntry) : Prop where
  /-- Each role can take the cell. -/
  isPlain : e.raw.IsPlain
  /-- The value is what a list has for the cell. -/
  cell_eq : (Row.cell e.column e.raw).1 = .ok e.value

/-- Whether a cell is a timestamp, in the unit of its column. -/
def isInstant (e : RowEntry) : Bool :=
  (Timestamp.ofCell? e.raw e.column.type.unit?).isSome

/-- The slot that a cell goes to. -/
def slot? (e : RowEntry) : Option Slot :=
  if e.raw.isNull then none
  else if e.column.isMeasurement && e.raw.isText then some .measurement
  else
    match e.column.role with
    | none =>
      some (if e.column.isTime && e.isInstant then .timestamp else .field e.column.name)
    | some (.field _) => some (.field e.column.name)
    | some .tag => if e.raw.isText then some (.tag e.column.name) else none
    | some .timestamp => if e.isInstant then some .timestamp else none
    | some .measurement => none

/-- A cell that is not absent but goes nowhere: it is no text in a tag column or in a column that
is declared as the measurement, or no timestamp in a column that is declared as one. -/
def IsDropped (e : RowEntry) : Prop :=
  e.column.role = some .tag ∧ e.raw.isText = false ∨
    e.column.role = some .timestamp ∧ e.isInstant = false ∧
      (e.column.isMeasurement && e.raw.isText) = false ∨
    e.column.role = some .measurement ∧ e.raw.isText = false

/-- A column that is declared as the measurement is one. -/
lemma isMeasurement_of_role {c : Column} (h : c.role = some .measurement) :
    c.isMeasurement = true := by
  simp [Column.isMeasurement, h]

/-- **The cells that go nowhere** are the absent ones and the dropped ones. -/
theorem slot?_eq_none_iff (e : RowEntry) : e.slot? = none ↔ e.raw = .null ∨ e.IsDropped := by
  rw [← Value.isNull_iff]
  unfold slot? IsDropped
  by_cases hnull : e.raw.isNull = true
  · rw [if_pos hnull]
    exact iff_of_true rfl (.inl hnull)
  · rw [if_neg hnull, or_iff_right hnull]
    by_cases hnamed : (e.column.isMeasurement && e.raw.isText) = true
    · obtain ⟨hname, htext⟩ := Bool.and_eq_true_iff.mp hnamed
      rw [if_pos hnamed]
      simp [hname, htext]
    · rw [if_neg hnamed]
      rcases hrole : e.column.role with _ | _ | _ | _ | _
      · simp
      · simp
      · simp
      · simp [hnamed]
      · -- the column is the measurement, so the cell is no text
        rw [isMeasurement_of_role hrole, Bool.true_and, Bool.not_eq_true] at hnamed
        simp [hnamed]

/-- A cell goes to a slot of the name of its column, if the slot has a name. -/
lemma slot?_named {e : RowEntry} {slot : Slot} (h : e.slot? = some slot) :
    slot = .measurement ∨ slot = .timestamp ∨ slot = .tag e.column.name ∨
      slot = .field e.column.name := by
  unfold slot? at h
  split at h
  · nomatch h
  · split at h
    · exact .inl (Option.some.inj h).symm
    · split at h
      · have hslot := (Option.some.inj h).symm
        split at hslot
        · exact .inr (.inl hslot)
        · exact .inr (.inr (.inr hslot))
      · exact .inr (.inr (.inr (Option.some.inj h).symm))
      · split at h
        · exact .inr (.inr (.inl (Option.some.inj h).symm))
        · nomatch h
      · split at h
        · exact .inr (.inl (Option.some.inj h).symm)
        · nomatch h
      · nomatch h

/-! ## The value of a cell -/

/-- A cell of a column with a role is narrowed to it. -/
lemma cell_of_role {c : Column} {role : ColumnType} (hrole : c.role = some role) {v : Value}
    (hnull : ¬ v.isNull = true) :
    Row.cell c v = Coercion.coerce (some role) c.name v c.type.unit? := by
  rw [Row.cell, if_neg hnull, hrole]

/-- A cell of a column without a role is a timestamp, or stays as it is. -/
lemma cell_of_no_role {c : Column} (hrole : c.role = none) {v : Value}
    (hnull : ¬ v.isNull = true) :
    Row.cell c v = (if c.isTime then Timestamp.ofCell? v c.type.unit? else none).elim (.ok v, [])
      fun nanos => (.ok (.int nanos), []) := by
  rw [Row.cell, if_neg hnull, hrole]
  dsimp only
  rcases (if c.isTime then Timestamp.ofCell? v c.type.unit? else none) with _ | nanos
  · rfl
  · rfl

/-- A text is narrowed to itself, whatever the role of its column. -/
lemma coerce_text (role : ColumnType) (name s : String) (unit : Option Precision) :
    (Coercion.coerce (some role) name (.text s) unit).1 = .ok (.text s) := by
  have htext : (Coercion.toTextCell name (.text s)).1 = .ok (.text s) := by
    simp only [Coercion.toTextCell, Value.isText, Bool.true_or, if_true,
      Value.unwrapText_text]
  rcases role with (_ | ⟨⟨⟩⟩) | _ | _ | _
  case field.some.string | tag | measurement => exact htext
  all_goals rfl

/-- A plain value is narrowed to something, whatever the role of its column. -/
lemma exists_coerce {v : Value} (h : v.IsPlain) (role : ColumnType) (name : String)
    (unit : Option Precision) : ∃ w, (Coercion.coerce (some role) name v unit).1 = .ok w := by
  rcases hresult : (Coercion.coerce (some role) name v unit).1 with fault | w
  · -- only numbers without a nearest double are refused
    have hrefused := Coercion.coerce_eq_error_iff.mp hresult
    exact absurd hrefused.nearestDouble?_eq (h.rounds fault)
  · exact ⟨w, rfl⟩

/-- A plain cell has a value. -/
lemma exists_cell {v : Value} (h : v.IsPlain) (c : Column) :
    ∃ w, (Row.cell c v).1 = .ok w := by
  by_cases hnull : v.isNull = true
  · rw [Row.cell, if_pos hnull]
    exact ⟨_, rfl⟩
  · rcases hrole : c.role with _ | role
    · rw [cell_of_no_role hrole hnull]
      rcases (if c.isTime then Timestamp.ofCell? v c.type.unit? else none) with _ | nanos
      · exact ⟨_, rfl⟩
      · exact ⟨_, rfl⟩
    · rw [cell_of_role hrole hnull]
      exact exists_coerce h role c.name c.type.unit?

/-- A text is its own value. -/
lemma cell_text (c : Column) (s : String) : (Row.cell c (.text s)).1 = .ok (.text s) := by
  have hnull : ¬ (Value.text s).isNull = true := Bool.false_ne_true
  rcases hrole : c.role with _ | role
  · have hinstant : (if c.isTime then Timestamp.ofCell? (.text s) c.type.unit? else none) = none :=
      ite_self none
    rw [cell_of_no_role hrole hnull, hinstant, Option.elim_none]
  · rw [cell_of_role hrole hnull]
    exact coerce_text role c.name s c.type.unit?

/-! ## Storing a cell -/

/-- A field is stored under its name unless that is empty. -/
lemma setField_text (pv : PointValues) (name : String) (v : Value) :
    pv.setField (.text name) v =
      if Slot.field name = .field "" then .error (.invalid .fieldNameEmpty)
      else .ok (pv.write (.field name) v) := by
  by_cases hname : name = ""
  · subst hname
    rfl
  · have hslot : Slot.field name ≠ .field "" := by simpa using hname
    have htruthy : (!(Value.text name).truthy) = false := by simpa [Value.truthy] using hname
    rw [if_neg hslot, PointValues.setField, PointValues.putField, htruthy,
      if_neg Bool.false_ne_true]
    rfl

/-- A cell of a column without a role is a field, if it is not a timestamp of the time column. -/
lemma putUntyped_eq {c : Column} (hrole : c.role = none) {v w : Value}
    (hnull : ¬ v.isNull = true) (hcell : (Row.cell c v).1 = .ok w) (pv : PointValues) :
    (Row.putUntyped pv c v).1 =
      if c.isTime && (Timestamp.ofCell? v c.type.unit?).isSome then .ok (pv.write .timestamp w)
      else pv.setField (.text c.name) w := by
  rw [cell_of_no_role hrole hnull] at hcell
  unfold Row.putUntyped
  rcases htime : c.isTime with _ | _
  · simp only [htime, Bool.false_eq_true, if_false] at hcell ⊢
    obtain rfl := Except.ok.inj hcell
    rfl
  · simp only [htime, if_true, Bool.true_and] at hcell ⊢
    rcases hnanos : Timestamp.ofCell? v c.type.unit? with _ | nanos
    · rw [hnanos] at hcell
      obtain rfl := Except.ok.inj hcell
      rfl
    · rw [hnanos] at hcell
      obtain rfl := Except.ok.inj hcell
      rfl

/-- A cell of a tag column is a tag if it is text. -/
lemma putTyped_tag {c : Column} {v w : Value} (hinterned : v.isInterned = false)
    (hcoerce : (Coercion.coerce (some .tag) c.name v c.type.unit?).1 = .ok w) (pv : PointValues) :
    (Row.putTyped pv c .tag v).1 =
      .ok (if v.isText then pv.write (.tag c.name) w else pv) := by
  rcases hresult : Coercion.coerce (some .tag) c.name v c.type.unit? with ⟨result, notices⟩
  rw [hresult] at hcoerce
  obtain rfl : result = .ok w := hcoerce
  simp only [Row.putTyped, hresult]
  rcases htext : v.isText with _ | _
  · have hsame : w = v := by
      rw [Coercion.coerce] at hresult
      split at hresult
      · exact (Except.ok.inj (congrArg Prod.fst hresult)).symm
      · simp only [Coercion.toTextCell, htext, hinterned, Bool.or_false, Bool.false_eq_true,
          if_false] at hresult
        exact (Except.ok.inj (congrArg Prod.fst hresult)).symm
    rw [hsame, htext]
    rfl
  · obtain ⟨s, rfl⟩ := Value.isText_iff.mp htext
    have hsame := coerce_text .tag c.name s c.type.unit?
    rw [hresult] at hsame
    obtain rfl : w = .text s := Except.ok.inj hsame
    rfl

/-- A cell of a timestamp column is the timestamp if it is one. -/
lemma putTyped_timestamp {c : Column} {v w : Value} (hnull : ¬ v.isNull = true)
    (hcoerce : (Coercion.coerce (some .timestamp) c.name v c.type.unit?).1 = .ok w)
    (pv : PointValues) :
    (Row.putTyped pv c .timestamp v).1 =
      .ok (if (Timestamp.ofCell? v c.type.unit?).isSome then pv.write .timestamp w else pv) := by
  rcases hresult : Coercion.coerce (some .timestamp) c.name v c.type.unit? with ⟨result, notices⟩
  rw [hresult] at hcoerce
  obtain rfl : result = .ok w := hcoerce
  simp only [Row.putTyped, hresult]
  rcases hnanos : Timestamp.ofCell? v c.type.unit? with _ | nanos
  · rw [Coercion.coerce_timestamp c.name c.type.unit? (Bool.eq_false_iff.mpr hnull),
      Coercion.toTimestamp, hnanos] at hresult
    obtain rfl : v = w := Except.ok.inj (congrArg Prod.fst hresult)
    -- an integer of any width would have been a timestamp
    split
    · cases hnanos
    · cases hnanos
    · rfl
  · rw [Coercion.coerce_instant hnanos] at hresult
    obtain rfl : Value.int nanos = w := Except.ok.inj (congrArg Prod.fst hresult)
    rfl

/-- **A cell is stored in its slot**, as the value that a list has for it; that fails only for a
field without a name. -/
theorem put_eq {e : RowEntry} (h : e.IsDecoded) (pv : PointValues) :
    (Row.put pv e.column e.raw).1 =
      match e.slot? with
      | none => .ok pv
      | some slot =>
        if slot = .field "" then .error (.invalid .fieldNameEmpty)
        else .ok (pv.write slot e.value) := by
  obtain ⟨c, v, w⟩ := e
  obtain ⟨⟨hinterned, hrounds⟩, hcell⟩ := h
  dsimp only at hinterned hrounds hcell ⊢
  unfold Row.put slot?
  dsimp only
  by_cases hnull : v.isNull = true
  · rw [if_pos hnull, if_pos hnull]
  · rw [if_neg hnull, if_neg hnull, hinterned, Bool.or_false]
    by_cases hnamed : (c.isMeasurement && v.isText) = true
    · obtain ⟨s, rfl⟩ := Value.isText_iff.mp (Bool.and_eq_true_iff.mp hnamed).2
      obtain rfl : Value.text s = w := by simpa [cell_text] using hcell
      rw [if_pos hnamed, if_pos hnamed, Value.unwrapText_text]
      rfl
    · rw [if_neg hnamed, if_neg hnamed]
      rcases hrole : c.role with _ | role
      · rw [if_neg (by decide)]
        dsimp only
        rw [putUntyped_eq hrole hnull hcell, isInstant]
        dsimp only
        split
        · rfl
        · exact setField_text pv c.name w
      · rw [cell_of_role hrole hnull] at hcell
        rcases role with type | _ | _ | _
        · rcases hresult : Coercion.coerce (some (.field type)) c.name v c.type.unit? with
            ⟨result, notices⟩
          rw [hresult] at hcell
          obtain rfl : result = .ok w := hcell
          rw [if_neg (by simp)]
          simp only [Row.putTyped, hresult]
          exact setField_text pv c.name w
        · rw [if_neg (by decide)]
          dsimp only
          rw [putTyped_tag hinterned hcell]
          split <;> rfl
        · rw [if_neg (by decide)]
          dsimp only
          rw [putTyped_timestamp hnull hcell, isInstant]
          dsimp only
          split <;> rfl
        · rfl

/-- A cell that is a timestamp has a number of nanoseconds. -/
lemma exists_nanos {e : RowEntry} (h : e.isInstant = true) :
    ∃ nanos, Timestamp.ofCell? e.raw e.column.type.unit? = some nanos :=
  Option.isSome_iff_exists.mp h

/-- The value that goes to a slot fits into it. -/
lemma fits_of_slot? {e : RowEntry} (h : e.IsDecoded) {slot : Slot} (hslot : e.slot? = some slot) :
    slot.Fits e.value := by
  have hcell := h.cell_eq
  unfold slot? at hslot
  split at hslot
  · nomatch hslot
  · next hnull =>
    split at hslot
    · next hnamed =>
      obtain rfl := Option.some.inj hslot
      obtain ⟨s, hs⟩ := Value.isText_iff.mp (Bool.and_eq_true_iff.mp hnamed).2
      rw [hs, cell_text] at hcell
      rw [← Except.ok.inj hcell]
      rfl
    · split at hslot
      · next hrole =>
        rw [cell_of_no_role hrole hnull] at hcell
        split at hslot
        · next hinstant =>
          obtain rfl := Option.some.inj hslot
          obtain ⟨htime, hsome⟩ := Bool.and_eq_true_iff.mp hinstant
          obtain ⟨nanos, hnanos⟩ := exists_nanos hsome
          rw [if_pos htime, hnanos] at hcell
          exact ⟨nanos, (Except.ok.inj hcell).symm⟩
        · obtain rfl := Option.some.inj hslot
          trivial
      · obtain rfl := Option.some.inj hslot
        trivial
      · split at hslot
        · obtain rfl := Option.some.inj hslot
          trivial
        · nomatch hslot
      · next hrole =>
        split at hslot
        · next hsome =>
          obtain rfl := Option.some.inj hslot
          obtain ⟨nanos, hnanos⟩ := exists_nanos hsome
          rw [cell_of_role hrole hnull, Coercion.coerce_instant hnanos] at hcell
          exact ⟨nanos, (Except.ok.inj hcell).symm⟩
        · nomatch hslot
      · nomatch hslot

end RowEntry

end SeriesClient
