import SeriesClient.Point.Basic
import SeriesClient.Proofs.OrderedMap
import SeriesClient.Proofs.Result

set_option relaxedAutoImplicit false
set_option autoImplicit false

/-!
# Rows that calls can make

A row is made without tags and fields, and changed by calls only. What holds of every row
that can be made in this way is that no two tags and no two fields have one name, and that
the kind kept for a field is the kind of its value.

## Main definitions

* `SeriesClient.PointValues.Reachable` — rows that calls can make.
* `SeriesClient.PointValues.IsInvariant` — what each change of a row keeps.
* `SeriesClient.PointValues.Consistent` — what holds of all rows that calls can make.

## Main results

* `SeriesClient.PointValues.IsInvariant.run` — what each change keeps, every call keeps.
* `SeriesClient.PointValues.Reachable.consistent` — every row that calls can make is
  consistent.

## Design

However many calls there are, they change a row in six ways only, so what they keep is stated
of the six changes.
-/

namespace SeriesClient.PointValues

/-- Rows that calls can make, starting from one without tags and fields. -/
inductive Reachable : PointValues → Prop where
  /-- A row that was just made. -/
  | new (measurement : Value) : Reachable (PointValues.new measurement)
  /-- A row after a call, whether the call was refused or not. -/
  | run {pv : PointValues} (call : Call) : Reachable pv → Reachable (pv.run call).2

/-- Names are apart, and each field has the kind of its value. -/
structure Consistent (pv : PointValues) : Prop where
  /-- No two tags have the same name. -/
  tags_distinct : pv.tags.DistinctKeys
  /-- No two fields have the same name. -/
  fields_distinct : pv.fields.DistinctKeys
  /-- The kinds are those of the values, field by field. -/
  kinds_eq : pv.kinds = pv.fields.mapValues FieldKind.infer?

/-- A row that was just made is consistent. -/
lemma consistent_new (measurement : Value) : (new measurement).Consistent :=
  ⟨OrderedMap.distinctKeys_empty, OrderedMap.distinctKeys_empty, rfl⟩

/-! ## Single changes -/

section Changes

variable {pv pv' : PointValues} {name v : Value}

/-- The kind of a converted value is the kind it was converted to. -/
lemma infer?_of_convert {kind : FieldKind} {v w : Value} (h : convert kind v = .ok w) :
    FieldKind.infer? w = some kind := by
  cases kind with
  | float =>
    obtain ⟨x, -, hx⟩ := bind_eq_ok_iff.1 h
    cases hx
    rfl
  | integer =>
    obtain ⟨n, -, hn⟩ := bind_eq_ok_iff.1 h
    cases hn
    rfl
  | boolean => cases h; rfl
  | string => cases h; rfl

/-- What is left of a map without the entry of a name. -/
lemma eq_erase_of_without {α : Type} {m m' : OrderedMap Value α}
    (h : without m name = .ok m') : m' = m.erase name := by
  unfold without at h
  split at h
  · next hempty =>
    obtain rfl := Except.ok.inj h
    obtain ⟨entries⟩ := m
    obtain rfl : entries = [] := List.isEmpty_iff.1 hempty
    rfl
  · obtain ⟨_, -, hm'⟩ := bind_eq_ok_iff.1 h
    exact (Except.ok.inj hm').symm

/-- A measurement that is replaced is not taken away. -/
lemma of_setMeasurement (h : pv.setMeasurement v = .ok pv') :
    v.isNull = false ∧ pv' = { pv with measurement := v } := by
  unfold setMeasurement at h
  split at h
  · cases h
  · next hnull => exact ⟨by simpa using hnull, (Except.ok.inj h).symm⟩

/-- Only the timestamp is replaced. -/
lemma exists_of_setTimestamp {unit : Value} (h : pv.setTimestamp v unit = .ok pv') :
    ∃ timestamp, pv' = { pv with timestamp } := by
  obtain ⟨timestamp, -, hpv'⟩ := bind_eq_ok_iff.1 h
  exact ⟨timestamp, (Except.ok.inj hpv').symm⟩

/-- A tag is stored. -/
lemma eq_of_setTag (h : pv.setTag name v = .ok pv') :
    pv' = { pv with tags := pv.tags.insert name v } := by
  obtain ⟨_, -, hpv'⟩ := bind_eq_ok_iff.1 h
  exact (Except.ok.inj hpv').symm

/-- A field is stored under a name that is not empty and can be a key. -/
lemma of_putField {kind : Option FieldKind} (h : pv.putField name v kind = .ok pv') :
    name.truthy = true ∧ name.unhashable? = none ∧
      pv' = { pv with fields := pv.fields.insert name v, kinds := pv.kinds.insert name kind } := by
  unfold putField at h
  split at h
  · cases h
  · next hname =>
    obtain ⟨_, hkey, hpv'⟩ := bind_eq_ok_iff.1 h
    exact ⟨by simpa using hname, Value.checkKey_eq_ok_iff.1 hkey, (Except.ok.inj hpv').symm⟩

/-- A tag is removed. -/
lemma eq_of_removeTag (h : pv.removeTag name = .ok pv') :
    pv' = { pv with tags := pv.tags.erase name } := by
  obtain ⟨_, htags, hpv'⟩ := bind_eq_ok_iff.1 h
  rw [eq_erase_of_without htags] at hpv'
  exact (Except.ok.inj hpv').symm

/-- A field is removed together with its kind. -/
lemma eq_of_removeField (h : pv.removeField name = .ok pv') :
    pv' = { pv with fields := pv.fields.erase name, kinds := pv.kinds.erase name } := by
  obtain ⟨_, hfields, h⟩ := bind_eq_ok_iff.1 h
  obtain ⟨_, hkinds, hpv'⟩ := bind_eq_ok_iff.1 h
  rw [eq_erase_of_without hfields, eq_erase_of_without hkinds] at hpv'
  exact (Except.ok.inj hpv').symm

end Changes

/-! ## Invariants -/

/-- Each of the changes that calls can make keeps a property of rows. -/
structure IsInvariant (P : PointValues → Prop) : Prop where
  /-- Another measurement is set, and not taken away. -/
  setMeasurement : ∀ {pv : PointValues} {v : Value},
    P pv → v.isNull = false → P { pv with measurement := v }
  /-- Another timestamp is set. -/
  setTimestamp : ∀ {pv : PointValues} (timestamp : Option Int), P pv → P { pv with timestamp }
  /-- A tag is stored. -/
  insertTag : ∀ {pv : PointValues} (name v : Value),
    P pv → P { pv with tags := pv.tags.insert name v }
  /-- A field is stored under a name that is not empty, with the kind of its value. -/
  insertField : ∀ {pv : PointValues} {name : Value} (v : Value),
    P pv → name.truthy = true → name.unhashable? = none →
      P { pv with
          fields := pv.fields.insert name v
          kinds := pv.kinds.insert name (FieldKind.infer? v) }
  /-- A tag is removed. -/
  eraseTag : ∀ {pv : PointValues} (name : Value), P pv → P { pv with tags := pv.tags.erase name }
  /-- A field is removed. -/
  eraseField : ∀ {pv : PointValues} (name : Value),
    P pv → P { pv with fields := pv.fields.erase name, kinds := pv.kinds.erase name }

section Calls

variable {P : PointValues → Prop} {pv : PointValues}

/-- A change is kept or refused as a whole. -/
lemma of_commit (hpv : P pv) {changed : Except Fault PointValues}
    (h : ∀ pv', changed = .ok pv' → P pv') : P (pv.commit changed).2 := by
  cases changed with
  | error fault => exact hpv
  | ok pv' => exact h pv' rfl

/-- Storing several entries keeps what storing each of them keeps.

**Proof sketch.** Induction on the entries; the first one that is refused ends the call and
leaves the row as the entries before it made it. -/
lemma of_storeAll {store : PointValues → Value → Value → Except Fault PointValues}
    (hstore : ∀ {pv pv' : PointValues} {k v : Value}, P pv → store pv k v = .ok pv' → P pv')
    (entries : List (Value × Value)) (hpv : P pv) : P (storeAll store entries pv).2 := by
  induction entries generalizing pv with
  | nil => exact hpv
  | cons e rest ih =>
    simp only [storeAll]
    split
    · next pv' hs => exact ih (hstore hpv hs)
    · exact hpv

namespace IsInvariant

variable (hP : IsInvariant P)

include hP

/-- A stored tag. -/
lemma setTag {pv pv' : PointValues} {name v : Value} (hpv : P pv)
    (h : pv.setTag name v = .ok pv') : P pv' := by
  rw [eq_of_setTag h]
  exact hP.insertTag name v hpv

/-- A stored field that has the kind of its value. -/
lemma putField {pv pv' : PointValues} {name v : Value} {kind : Option FieldKind} (hpv : P pv)
    (hkind : FieldKind.infer? v = kind) (h : pv.putField name v kind = .ok pv') : P pv' := by
  obtain ⟨hname, hkey, rfl⟩ := of_putField h
  rw [← hkind]
  exact hP.insertField v hpv hname hkey

/-- **What each change keeps, every call keeps**, whatever its arguments and whether it is
refused. -/
theorem run (hpv : P pv) (call : Call) : P (pv.run call).2 := by
  cases call with
  | setMeasurement v =>
    refine of_commit hpv fun pv' h => ?_
    obtain ⟨hv, rfl⟩ := of_setMeasurement h
    exact hP.setMeasurement hpv hv
  | setTimestamp v unit =>
    refine of_commit hpv fun pv' h => ?_
    obtain ⟨timestamp, rfl⟩ := exists_of_setTimestamp h
    exact hP.setTimestamp timestamp hpv
  | setTag name v => exact of_commit hpv fun _ => hP.setTag hpv
  | setTags tags =>
    simp only [PointValues.run]
    split
    · exact of_storeAll hP.setTag _ hpv
    · exact hpv
  | removeTag name =>
    refine of_commit hpv fun pv' h => ?_
    rw [eq_of_removeTag h]
    exact hP.eraseTag name hpv
  | setField name v => exact of_commit hpv fun _ => hP.putField hpv rfl
  | setFields fields =>
    simp only [PointValues.run]
    split
    · exact of_storeAll (fun hpv => hP.putField hpv rfl) _ hpv
    · exact hpv
  | setTypedField kind name v =>
    refine of_commit hpv fun pv' h => ?_
    obtain ⟨w, hw, hput⟩ := bind_eq_ok_iff.1 h
    exact hP.putField hpv (infer?_of_convert hw) hput
  | removeField name =>
    refine of_commit hpv fun pv' h => ?_
    rw [eq_of_removeField h]
    exact hP.eraseField name hpv
  | getMeasurement | getTimestamp | getTag | tagNames | getField | fieldType | typedField
  | fieldNames | hasFields => exact hpv

end IsInvariant

end Calls

/-! ## Consistency -/

/-- Each change keeps a row consistent. -/
lemma isInvariant_consistent : IsInvariant Consistent where
  setMeasurement hpv _ := ⟨hpv.tags_distinct, hpv.fields_distinct, hpv.kinds_eq⟩
  setTimestamp _ hpv := ⟨hpv.tags_distinct, hpv.fields_distinct, hpv.kinds_eq⟩
  insertTag _ _ hpv :=
    ⟨OrderedMap.distinctKeys_insert hpv.tags_distinct _ _, hpv.fields_distinct, hpv.kinds_eq⟩
  insertField v hpv _ _ := by
    refine ⟨hpv.tags_distinct, OrderedMap.distinctKeys_insert hpv.fields_distinct _ _, ?_⟩
    rw [OrderedMap.mapValues_insert, ← hpv.kinds_eq]
  eraseTag _ hpv :=
    ⟨OrderedMap.distinctKeys_erase hpv.tags_distinct _, hpv.fields_distinct, hpv.kinds_eq⟩
  eraseField _ hpv := by
    refine ⟨hpv.tags_distinct, OrderedMap.distinctKeys_erase hpv.fields_distinct _, ?_⟩
    rw [OrderedMap.mapValues_erase, ← hpv.kinds_eq]

/-- What a new row has and each change keeps, every row that calls can make has. -/
lemma Reachable.of_isInvariant {P : PointValues → Prop} (hP : IsInvariant P)
    (hnew : ∀ measurement, P (PointValues.new measurement)) {pv : PointValues} (h : pv.Reachable) :
    P pv := by
  induction h with
  | new measurement => exact hnew measurement
  | run call _ ih => exact hP.run ih call

/-- **Every row that calls can make is consistent.** -/
theorem Reachable.consistent {pv : PointValues} (h : pv.Reachable) : pv.Consistent :=
  h.of_isInvariant isInvariant_consistent consistent_new

/-- Rows that a sequence of calls makes. -/
lemma Reachable.foldl {pv : PointValues} (h : pv.Reachable) (calls : List Call) :
    (calls.foldl (fun pv call => (pv.run call).2) pv).Reachable := by
  induction calls generalizing pv with
  | nil => exact h
  | cons call calls ih => exact ih (h.run call)

end SeriesClient.PointValues
