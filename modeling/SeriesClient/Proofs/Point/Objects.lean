import SeriesClient.Point.Registry
import SeriesClient.Proofs.Point.Consistency
import SeriesClient.Proofs.TextKeys

set_option relaxedAutoImplicit false
set_option autoImplicit false

/-!
# Rows and points that operations make

Rows are made, shared by points, copied and changed, by operations on all objects that there
are. However they came about, a row keeps its fields and their kinds side by side, a point has
a measurement, and a field is handed out as its own kind only.

## Main definitions

* `SeriesClient.PointValues.WellFormed` — how a row keeps its parts, and what it answers for
  its fields.
* `SeriesClient.Registry.Made` — the objects that operations make.
* `SeriesClient.Registry.IsSound` — what holds of all of them.

## Main results

* `SeriesClient.PointValues.Reachable.wellFormed` — rows that calls can make are well formed.
* `SeriesClient.Registry.IsSound.perform` — no operation breaks soundness.
* `SeriesClient.Registry.Made.represented` — every object has a row that is well formed, and
  every point a measurement.

## Design

A point made over a row shares it, so that a point may lose or gain by what is done to the row.
Hence the objects are followed together, and a point is known by its reference and not by its
row.
-/

namespace SeriesClient

/-! ## Names that can be keys -/

/-- The unordered element equals nothing. -/
lemma Extended.equal_unordered (x : Extended) : x.equal .unordered = false := by
  cases x <;> rfl

namespace Value

/-- Nothing equals a decimal that is not a number. -/
lemma same_nan (a : Value) (negative signaling : Bool) (payload : Option Nat) :
    same a (decimal (.nan negative signaling payload)) = false := by
  have halign (x y : Extended) :
      (alignNumbers a (decimal (.nan negative signaling payload)) x y).2 = y := by
    unfold alignNumbers
    cases a.comparisonWidth? <;> rfl
  cases a <;>
    simp only [same, sameScalar, number?, halign, DecimalNumber.toExtended,
      Extended.equal_unordered]

mutual

/-- What equals a possible key is a possible key. -/
lemma unhashable?_of_same : ∀ {a b : Value}, same a b = true → a.unhashable? = none →
    b.unhashable? = none
  | tuple _, tuple _, h, ha => unhashableAny?_of_sameAll h ha
  | a, b, h, ha => by
    cases b with
    | list ys => cases a <;> simp [same, sameScalar, number?, unhashable?] at h ha
    | dict ys => cases a <;> simp [same, sameScalar, number?, unhashable?] at h ha
    | tuple ys =>
      cases a with
      | tuple xs => exact unhashableAny?_of_sameAll h ha
      | _ => simp [same, sameScalar, number?] at h
    | foreign typeName shown => cases a <;> simp [same, sameScalar, number?] at h
    | decimal d =>
      cases d with
      | nan negative signaling payload =>
        rw [same_nan] at h
        cases h
      | _ => rfl
    | _ => rfl

/-- What equals a list of possible keys is a list of possible keys. -/
lemma unhashableAny?_of_sameAll : ∀ {xs ys : List Value}, sameAll xs ys = true →
    unhashableAny? xs = none → unhashableAny? ys = none
  | [], [], _, _ => rfl
  | x :: xs, y :: ys, h, hxs => by
    simp only [sameAll, Bool.and_eq_true] at h
    simp only [unhashableAny?] at hxs ⊢
    split at hxs
    · cases hxs
    · next hx => rw [unhashable?_of_same h.1 hx, unhashableAny?_of_sameAll h.2 hxs]

end

end Value

/-! ## Rows -/

namespace PointValues

/-- The names of fields are not empty and can be keys. -/
def Named (pv : PointValues) : Prop :=
  ∀ name ∈ pv.fields.keys, name.truthy = true ∧ name.unhashable? = none

/-- Each change keeps the fields named. -/
lemma isInvariant_named : IsInvariant Named where
  setMeasurement hpv _ := hpv
  setTimestamp _ hpv := hpv
  insertTag _ _ hpv := hpv
  insertField v hpv hname hkey := fun name hmem => by
    rcases OrderedMap.mem_keys_insert hmem with hmem | rfl
    · exact hpv name hmem
    · exact ⟨hname, hkey⟩
  eraseTag _ hpv := hpv
  eraseField _ hpv := fun name hmem =>
    hpv name ((List.filter_sublist.map Prod.fst).subset hmem)

/-- Each change keeps a measurement that there is. -/
lemma isInvariant_measured : IsInvariant fun pv => pv.measurement.isNull = false where
  setMeasurement _ hv := hv
  setTimestamp _ hpv := hpv
  insertTag _ _ hpv := hpv
  insertField _ hpv _ _ := hpv
  eraseTag _ hpv := hpv
  eraseField _ hpv := hpv

/-- How a row keeps its parts, and what it answers for its fields. -/
structure WellFormed (pv : PointValues) : Prop where
  /-- The kinds are kept under the names of the fields, in their order, and each is the kind of
  the value of its field. -/
  kinds : pv.kinds.entries = pv.fields.entries.map fun e => (e.1, FieldKind.infer? e.2)
  /-- No field has an empty name. -/
  named : ∀ name ∈ pv.fields.keys, name.truthy = true
  /-- The timestamp is absent or an integer. -/
  timestamp : ∃ nanos, (pv.run .getTimestamp).1 = .ok (.value nanos) ∧
    (nanos = .null ∨ ∃ n, nanos = .int n)
  /-- A field whose value has a kind is handed out as this kind, and refused as any other. -/
  typed : ∀ name v kind, pv.fields.find? name = some v → FieldKind.infer? v = some kind →
    ∀ wanted, (pv.run (.typedField wanted name)).1 =
      if wanted = kind then .ok (.value v)
      else .error (.mistyped (.fieldKind name.toText kind.name wanted.name))
  /-- A field that is absent, or has no value, is no value of any kind. -/
  absent : ∀ name : Value, name.unhashable? = none →
    (pv.fields.find? name = none ∨ pv.fields.find? name = some .null) →
    ∀ wanted, (pv.run (.typedField wanted name)).1 = .ok (.value .null)
  /-- What cannot be a name is refused. -/
  refused : ∀ (name : Value) cause, name.unhashable? = some cause →
    ∀ wanted, (pv.run (.typedField wanted name)).1 = .error (.mistyped cause)

section Fields

variable {pv : PointValues} {name v : Value}

/-- The kind that is kept under a name is that of the value that is found there. -/
lemma Consistent.kind?_eq (hpv : pv.Consistent) (name : Value) :
    pv.kind? name = (pv.fields.find? name).bind FieldKind.infer? := by
  rw [kind?, hpv.kinds_eq, OrderedMap.find?_mapValues]
  cases pv.fields.find? name <;> rfl

/-- The value of a field is what is found under its name. -/
lemma getField_of_key (hkey : name.unhashable? = none) :
    pv.getField name = .ok ((pv.fields.find? name).getD .null) := by
  rw [getField, Value.checkKey_eq_ok_iff.2 hkey]
  rfl

/-- A name under which a field is found can be a key. -/
lemma Named.of_find? (hpv : pv.Named) (h : pv.fields.find? name = some v) :
    name.unhashable? = none := by
  obtain ⟨name', hsame, hmem⟩ := OrderedMap.exists_mem_of_find? h
  exact Value.unhashable?_of_same hsame (hpv name' (List.mem_map_of_mem hmem)).2

/-- A field that is there is handed out as the kind that is kept for it. -/
lemma typedField_of_getField (h : pv.getField name = .ok v) (hv : v.isNull = false)
    (wanted : FieldKind) :
    pv.typedField wanted name =
      if pv.kind? name = some wanted then .ok v
      else .error (.mistyped (.fieldKind name.toText
        (((pv.kind? name).map FieldKind.name).getD "None") wanted.name)) := by
  simp only [typedField, h, bind, Except.bind, hv, Bool.false_eq_true, if_false]
  rfl

end Fields

/-- **Rows that calls can make are well formed.** -/
theorem Reachable.wellFormed {pv : PointValues} (h : pv.Reachable) : pv.WellFormed := by
  have hconsistent := h.consistent
  have hnamed : pv.Named := h.of_isInvariant isInvariant_named fun _ _ => nofun
  refine ⟨?_, fun name hname => (hnamed name hname).1, ?_, ?_, ?_, ?_⟩
  · rw [hconsistent.kinds_eq]
    rfl
  · cases htime : pv.timestamp with
    | none => exact ⟨.null, by rw [PointValues.run, htime]; rfl, .inl rfl⟩
    | some n => exact ⟨.int n, by rw [PointValues.run, htime]; rfl, .inr ⟨n, rfl⟩⟩
  · intro name v kind hfind hkind wanted
    have hvalue : v.isNull = false := by
      cases v with
      | null => cases hkind
      | _ => rfl
    have hget : pv.getField name = .ok v := by
      rw [getField_of_key (hnamed.of_find? hfind), hfind]
      rfl
    have hkept : pv.kind? name = some kind := by
      rw [hconsistent.kind?_eq, hfind]
      exact hkind
    rw [PointValues.run, answer, typedField_of_getField hget hvalue, hkept]
    by_cases hwanted : wanted = kind
    · subst hwanted
      simp only [if_true]
      rfl
    · rw [if_neg hwanted, if_neg fun heq => hwanted (Option.some.inj heq).symm]
      rfl
  · intro name hkey hfind wanted
    have hget : pv.getField name = .ok .null := by
      rw [getField_of_key hkey]
      rcases hfind with hfind | hfind <;> rw [hfind] <;> rfl
    rw [PointValues.run, answer, typedField, hget]
    rfl
  · intro name cause hcause wanted
    rw [PointValues.run, answer, typedField, getField, Value.checkKey, hcause]
    rfl

end PointValues

/-! ## Objects -/

namespace Registry

/-- The objects that an operation is about. -/
def Operation.handles : Operation → List Handle
  | newPoint _ | newRow _ => []
  | pointOver _ h | pointOf h | call h _ | line h .. | copy h | asPoint h _ | display h => [h]
  | equal a b => a :: b.toList

/-- The object that an operation makes. -/
def madeBy : Except Fault Reply → List Handle
  | .ok (.object h) => [h]
  | _ => []

/-- The rows, and all objects, that operations make, whether these are refused or not. An
operation is about objects that there are. -/
inductive Made : Registry → List Handle → Prop where
  /-- At first there are no objects. -/
  | empty : Made .empty []
  /-- An operation on objects that there are. -/
  | perform {r : Registry} {objects : List Handle} (op : Operation) (h : Made r objects)
    (hop : ∀ o ∈ op.handles, o ∈ objects) :
    Made (r.perform op).2 (objects ++ madeBy (r.perform op).1)
  /-- An object gets a name. -/
  | bind {r : Registry} {objects : List Handle} (name : String) {o : Handle} (h : Made r objects)
    (ho : o ∈ objects) : Made (r.bind name o) objects

/-- What holds of the rows and of the objects. -/
structure IsSound (r : Registry) (objects : List Handle) : Prop where
  /-- Each row is one that calls can make. -/
  rows : ∀ pv ∈ r.rows, pv.Reachable
  /-- Each object has a row. -/
  exist : ∀ o ∈ objects, o.index < r.rows.length
  /-- Each point has a measurement. -/
  measured : ∀ o ∈ objects, o.shape = .point → (r.row o.index).measurement.isNull = false

section Rows

variable {r : Registry} {objects : List Handle}

/-- The row of an object is one that calls can make. -/
lemma IsSound.reachable (h : r.IsSound objects) {o : Handle} (ho : o ∈ objects) :
    (r.row o.index).Reachable := by
  have hlt := h.exist o ho
  rw [row, List.getElem?_eq_getElem hlt]
  exact h.rows _ (List.getElem_mem hlt)

/-- What is read at an index after a row has been replaced. -/
lemma row_update_eq (r : Registry) (i j : Nat) (pv : PointValues) :
    (r.update i pv).row j = r.row j ∨ i = j ∧ (r.update i pv).row j = pv := by
  by_cases hij : i = j
  · subst hij
    by_cases hi : i < r.rows.length
    · exact .inr ⟨rfl, r.row_update i pv hi⟩
    · exact .inl (by rw [row, row, update, List.set_eq_of_length_le (Nat.le_of_not_lt hi)])
  · exact .inl (by simp [row, update, List.getElem?_set_ne hij])

/-- A row may be replaced by one that calls can make, if no measurement is lost. -/
lemma IsSound.update (h : r.IsSound objects) (i : Nat) {pv : PointValues} (hpv : pv.Reachable)
    (hmeasured : (r.row i).measurement.isNull = false → pv.measurement.isNull = false) :
    (r.update i pv).IsSound objects := by
  refine ⟨fun pv' hpv' => ?_, fun o ho => ?_, fun o ho hpoint => ?_⟩
  · rcases List.mem_or_eq_of_mem_set hpv' with hmem | rfl
    · exact h.rows pv' hmem
    · exact hpv
  · rw [Registry.update, List.length_set]
    exact h.exist o ho
  · rcases r.row_update_eq i o.index pv with hrow | ⟨rfl, hrow⟩
    · rw [hrow]
      exact h.measured o ho hpoint
    · rw [hrow]
      exact hmeasured (h.measured o ho hpoint)

/-- A row that calls can make may be added, for a point if it has a measurement. -/
lemma IsSound.add (h : r.IsSound objects) (shape : Shape) {pv : PointValues}
    (hpv : pv.Reachable) (hmeasured : shape = .point → pv.measurement.isNull = false) :
    (r.add shape pv).2.IsSound (objects ++ madeBy (r.add shape pv).1) := by
  have hold : ∀ o ∈ objects, (r.add shape pv).2.row o.index = r.row o.index := fun o ho => by
    simp only [Registry.add, row, List.getElem?_append_left (h.exist o ho)]
  have hnew : (r.add shape pv).2.row r.rows.length = pv := by
    simp [Registry.add, row]
  refine ⟨fun pv' hpv' => ?_, fun o ho => ?_, fun o ho hpoint => ?_⟩
  · rcases List.mem_append.1 hpv' with hmem | hmem
    · exact h.rows pv' hmem
    · rw [List.mem_singleton.1 hmem]
      exact hpv
  · rw [Registry.add, List.length_append, List.length_singleton]
    rcases List.mem_append.1 ho with ho | ho
    · exact Nat.lt_succ_of_lt (h.exist o ho)
    · rw [List.mem_singleton.1 ho]
      exact Nat.lt_succ_self _
  · rcases List.mem_append.1 ho with ho | ho
    · rw [hold o ho]
      exact h.measured o ho hpoint
    · obtain rfl := List.mem_singleton.1 ho
      rw [hnew]
      exact hmeasured hpoint

/-- Objects that are there already may be counted again. -/
lemma IsSound.append (h : r.IsSound objects) {made : List Handle}
    (hexist : ∀ o ∈ made, o.index < r.rows.length)
    (hmeasured : ∀ o ∈ made, o.shape = .point → (r.row o.index).measurement.isNull = false) :
    r.IsSound (objects ++ made) :=
  ⟨h.rows, List.forall_mem_append.2 ⟨h.exist, hexist⟩,
    List.forall_mem_append.2 ⟨h.measured, hmeasured⟩⟩

/-- A refused operation leaves everything as it is. -/
lemma IsSound.refused (h : r.IsSound objects) : r.IsSound (objects ++ []) := by
  rw [List.append_nil]
  exact h

end Rows

/-! ## Operations -/

/-- A point that is made over a row takes over the row with a measurement. -/
lemma of_new {measurement : Value} {pv : PointValues} {p : Point} (hpv : pv.Reachable)
    (h : Point.new measurement pv = .ok p) :
    p.values.Reachable ∧ p.values.measurement.isNull = false := by
  unfold Point.new at h
  cases hset : pv.setMeasurement measurement with
  | error fault =>
    rw [hset] at h
    cases h
  | ok pv' =>
    rw [hset] at h
    obtain rfl := Except.ok.inj h
    have hrun := hpv.run (.setMeasurement measurement)
    rw [PointValues.run, hset] at hrun
    obtain ⟨hmeasured, rfl⟩ := PointValues.of_setMeasurement hset
    exact ⟨hrun, hmeasured⟩

/-- A point that is made of a row has a copy of the row, which has a measurement. -/
lemma of_ofValues {pv : PointValues} {p : Point} (h : Point.ofValues pv = .ok p) :
    p.values = pv ∧ pv.measurement.isNull = false := by
  unfold Point.ofValues at h
  split at h
  · cases h
  · next hnull =>
    obtain rfl := Except.ok.inj h
    exact ⟨rfl, by simpa using hnull⟩

section Operations

variable {r : Registry} {objects : List Handle}

/-- An answer makes no object. -/
lemma madeBy_answer (result : Except Fault PointValues.Answer) :
    madeBy (result.map .answer) = [] := by
  cases result <;> rfl

/-- A text makes no object. -/
lemma madeBy_text (result : Except Fault (List Char)) : madeBy (result.map text) = [] := by
  cases result <;> rfl

/-- A point is made of an object. -/
lemma IsSound.pointOf (h : r.IsSound objects) {values : Handle} (hvalues : values ∈ objects) :
    (r.pointOf values).2.IsSound (objects ++ madeBy (r.pointOf values).1) := by
  unfold Registry.pointOf
  split
  · exact h.refused
  · next p _ hp =>
    obtain ⟨hrow, hmeasured⟩ := of_ofValues hp
    rw [← hrow] at hmeasured
    exact h.add .point (hrow ▸ h.reachable hvalues) fun _ => hmeasured
  · exact h.refused

/-- **No operation breaks soundness**, whatever its arguments and whether it is refused. -/
theorem IsSound.perform (h : r.IsSound objects) (op : Operation)
    (hop : ∀ o ∈ op.handles, o ∈ objects) :
    (r.perform op).2.IsSound (objects ++ madeBy (r.perform op).1) := by
  cases op with
  | newPoint measurement =>
    simp only [Registry.perform]
    split
    · next p hp =>
      obtain ⟨hreach, hmeasured⟩ := of_new (.new .null) hp
      exact h.add .point hreach fun _ => hmeasured
    · exact h.refused
  | pointOver measurement values =>
    have hvalues : values ∈ objects := hop values (List.mem_singleton_self _)
    simp only [Registry.perform]
    split
    · next p hp =>
      obtain ⟨hreach, hmeasured⟩ := of_new (h.reachable hvalues) hp
      have hupdated := h.update values.index hreach fun _ => hmeasured
      refine hupdated.append (List.forall_mem_singleton.2 (hupdated.exist values hvalues))
        (List.forall_mem_singleton.2 fun _ => ?_)
      rw [r.row_update values.index p.values (h.exist values hvalues)]
      exact hmeasured
    · exact h.refused
  | newRow measurement => exact h.add .row (.new measurement) nofun
  | pointOf values => exact h.pointOf (hop values (List.mem_singleton_self _))
  | call on call =>
    have hon : on ∈ objects := hop on (List.mem_singleton_self _)
    simp only [Registry.perform, madeBy_answer]
    exact (h.update on.index ((h.reachable hon).run call) fun hmeasured =>
      PointValues.isInvariant_measured.run hmeasured call).refused
  | line on precision defaults =>
    simp only [Registry.perform]
    split
    · exact h.refused
    · rw [madeBy_text]
      exact h.refused
  | copy on =>
    have hon : on ∈ objects := hop on (List.mem_singleton_self _)
    exact h.add on.shape (h.reachable hon) (h.measured on hon)
  | asPoint on measurement =>
    have hon : on ∈ objects := hop on (List.mem_singleton_self _)
    simp only [Registry.perform]
    split
    · exact h.refused
    · split
      · next pv hpv =>
        split at hpv
        · obtain rfl := Except.ok.inj hpv
          exact (h.update on.index (h.reachable hon) id).pointOf hon
        · have hrun := (h.reachable hon).run (.setMeasurement measurement)
          rw [PointValues.run, hpv] at hrun
          obtain ⟨hmeasured, rfl⟩ := PointValues.of_setMeasurement hpv
          exact (h.update on.index hrun fun _ => hmeasured).pointOf hon
      · exact h.refused
  | equal a b => exact h.refused
  | display on =>
    simp only [Registry.perform]
    split
    · exact h.refused
    · rw [madeBy_text]
      exact h.refused

/-- All objects that operations make are sound. -/
lemma Made.isSound (h : r.Made objects) : r.IsSound objects := by
  induction h with
  | empty => exact ⟨nofun, nofun, nofun⟩
  | perform op _ hop ih => exact ih.perform op hop
  | bind name _ _ ih => exact ⟨ih.rows, ih.exist, ih.measured⟩

/-- **Every object has a row that is well formed, and every point a measurement**, whatever
operations there were on all objects, with whatever arguments, and whichever of them were
refused. -/
theorem Made.represented (h : r.Made objects) {o : Handle} (ho : o ∈ objects) :
    (r.row o.index).WellFormed ∧
      (o.shape = .point → (r.row o.index).measurement.isNull = false) :=
  ⟨(h.isSound.reachable ho).wellFormed, h.isSound.measured o ho⟩

end Operations

/-- A row without a measurement, a point that shares it and sets one, and a field that is set
through the point; taking the measurement away again is refused. -/
def sharedRow : Registry :=
  [.newRow .null, .pointOver (.text "room") ⟨.row, 0⟩,
    .call ⟨.point, 0⟩ (.setTypedField .integer (.text "visitors") (.text "12")),
    .call ⟨.row, 0⟩ (.setMeasurement .null)].foldl (fun r op => (r.perform op).2) .empty

/-- The row and the point are all objects that these operations make. -/
lemma made_sharedRow : sharedRow.Made [⟨.row, 0⟩, ⟨.point, 0⟩] := by
  have hrow := Made.empty.perform (.newRow .null) nofun
  have hpoint := hrow.perform (.pointOver (.text "room") ⟨.row, 0⟩) (by decide)
  have hfield := hpoint.perform
    (.call ⟨.point, 0⟩ (.setTypedField .integer (.text "visitors") (.text "12"))) (by decide)
  exact hfield.perform (.call ⟨.row, 0⟩ (.setMeasurement .null)) (by decide)

/-- The shared row has the measurement of the point, and its field is an integer. -/
theorem represented_sharedRow :
    sharedRow.Made [⟨.row, 0⟩, ⟨.point, 0⟩] ∧
      (sharedRow.row 0).measurement.isNull = false ∧
      ((sharedRow.row 0).run (.typedField .integer (.text "visitors"))).1 =
        .ok (.value (.int 12)) ∧
      ((sharedRow.row 0).run (.typedField .float (.text "visitors"))).1 =
        .error (.mistyped (.fieldKind "visitors" "integer" "float")) := by
  obtain ⟨hrow, hpoint⟩ := made_sharedRow.represented (o := ⟨.point, 0⟩) (by decide)
  have htyped := hrow.typed (.text "visitors") (.int 12) .integer rfl rfl
  exact ⟨made_sharedRow, hpoint rfl, htyped .integer, htyped .float⟩

end Registry

end SeriesClient
