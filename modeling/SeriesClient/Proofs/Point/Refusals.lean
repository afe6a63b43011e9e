import SeriesClient.Proofs.Point.Objects

set_option relaxedAutoImplicit false
set_option autoImplicit false

/-!
# Refused changes

A setter looks at its arguments, converts them, and writes to one or two of the maps of a row.
Whatever is refused is refused before the first write, so a row is never left half changed. Setting
many fields at once is setting them one after the other, up to the first that is refused.

## Main definitions

* `SeriesClient.PointValues.Update` — a change that is made write by write, and keeps what it has
  written when it is refused.
* `SeriesClient.PointValues.Call.update?` — the checks and writes of a setter, in order.
* `SeriesClient.PointValues.Update.IsAtomic` — a refused change has written nothing.
* `SeriesClient.Registry.SetsFields` — fields that are set one after the other.

## Main results

* `SeriesClient.PointValues.run_of_update?` — a setter comes to its checks and writes, in order.
* `SeriesClient.PointValues.isAtomic_of_update?` — setters are atomic.
* `SeriesClient.Registry.Made.setFields_outcome` — setting many fields stops at the first refusal.
* `SeriesClient.Registry.Made.refused_intact` — what a refused operation leaves behind.

## Design

Where a row is replaced as a whole, it cannot be left half changed. Hence the writes are spelled out
here one at a time, with nothing that would take them back: a field and its kind go into two maps,
and each of the maps looks at the name again.
-/

namespace SeriesClient

namespace PointValues

/-! ## Changes, write by write -/

/-- A change that is made write by write. What was written before a refusal stays written. -/
abbrev Update := ExceptT Fault (StateM PointValues)

namespace Update

/-- Writes the measurement. -/
def writeMeasurement (v : Value) : Update Unit :=
  modify fun pv => { pv with measurement := v }

/-- Writes the timestamp. -/
def writeTimestamp (nanos : Option Int) : Update Unit :=
  modify fun pv => { pv with timestamp := nanos }

/-- Writes to the map of tags, which looks at the name first. -/
def writeTag (name v : Value) : Update Unit := do
  name.checkKey
  modify fun pv => { pv with tags := pv.tags.insert name v }

/-- Writes to the map of fields, which looks at the name first. -/
def writeField (name v : Value) : Update Unit := do
  name.checkKey
  modify fun pv => { pv with fields := pv.fields.insert name v }

/-- Writes to the map of kinds, which looks at the name first. -/
def writeKind (name : Value) (kind : Option FieldKind) : Update Unit := do
  name.checkKey
  modify fun pv => { pv with kinds := pv.kinds.insert name kind }

/-- Writes a field and then its kind, under a name that is not empty. -/
def putField (name v : Value) (kind : Option FieldKind) : Update Unit :=
  if !name.truthy then throw (.invalid .fieldNameEmpty)
  else do
    writeField name v
    writeKind name kind

end Update

/-- The checks and writes of a call that sets one thing, in order. -/
def Call.update? : Call → Option (Update Unit)
  | .setMeasurement v =>
    some (if v.isNull then throw (.invalid .measurementRequired) else Update.writeMeasurement v)
  | .setTimestamp v unit => some do
    let nanos ← Timestamp.ofApplication v unit
    Update.writeTimestamp nanos
  | .setTag name v => some (Update.writeTag name v)
  | .setField name v => some (Update.putField name v (FieldKind.infer? v))
  | .setTypedField kind name v => some do
    let converted ← convert kind v
    Update.putField name converted (some kind)
  | _ => none

/-! ## Atomicity -/

namespace Update

variable {α β : Type}

/-- A change that is refused has written nothing. -/
def IsAtomic (u : Update α) : Prop :=
  ∀ (pv : PointValues) (fault : Fault), (u pv).1 = .error fault → (u pv).2 = pv

/-- A single write is not refused. -/
lemma isAtomic_modify (f : PointValues → PointValues) : IsAtomic (modify f : Update Unit) := by
  intro pv fault h
  nomatch h

/-- A refusal writes nothing. -/
lemma isAtomic_throw (fault : Fault) : IsAtomic (throw fault : Update α) := by
  intro pv fault' _
  rfl

/-- Arguments may be looked at and converted before an atomic change. -/
lemma IsAtomic.after {x : Except Fault β} {u : β → Update α} (hu : ∀ b, IsAtomic (u b)) :
    IsAtomic (liftM x >>= u) := by
  cases x with
  | error fault => exact isAtomic_throw fault
  | ok b => exact hu b

/-- Arguments may be tested before an atomic change. -/
lemma IsAtomic.guarded {u : Update Unit} (hu : IsAtomic u) (c : Bool) (fault : Fault) :
    IsAtomic (if c then throw fault else u) := by
  cases c with
  | true => exact isAtomic_throw fault
  | false => exact hu

/-- A change goes on with the row as it has been written so far. -/
lemma bind_of_ok {u : Update β} {f : β → Update α} {pv : PointValues} {b : β}
    (h : (u pv).1 = .ok b) : (u >>= f) pv = f b (u pv).2 := by
  change ExceptT.bindCont f (u pv).1 (u pv).2 = _
  rw [h]
  rfl

/-- A change that is refused goes no further. -/
lemma bind_of_error {u : Update β} {f : β → Update α} {pv : PointValues} {fault : Fault}
    (h : (u pv).1 = .error fault) : (u >>= f) pv = (.error fault, (u pv).2) := by
  change ExceptT.bindCont f (u pv).1 (u pv).2 = _
  rw [h]
  rfl

/-- An atomic change may be followed by writes that are not refused after it. -/
lemma IsAtomic.bind {u : Update β} {f : β → Update α} (hu : IsAtomic u)
    (hf : ∀ pv b, (u pv).1 = .ok b → ∀ pv' fault, (f b pv').1 ≠ .error fault) :
    IsAtomic (u >>= f) := by
  intro pv fault h
  cases hresult : (u pv).1 with
  | error fault' =>
    rw [bind_of_error hresult]
    exact hu pv fault' hresult
  | ok b =>
    rw [bind_of_ok hresult] at h
    exact absurd h (hf pv b hresult _ fault)

/-- The map of kinds takes each name that the map of fields has taken. -/
lemma writeKind_of_writeField {name v : Value} {pv : PointValues}
    (h : (writeField name v pv).1 = .ok ()) (kind : Option FieldKind) (pv' : PointValues)
    (fault : Fault) : (writeKind name kind pv').1 ≠ .error fault := by
  unfold writeField at h
  unfold writeKind
  intro hkind
  cases hkey : name.checkKey with
  | error cause =>
    rw [hkey] at h
    nomatch h
  | ok =>
    rw [hkey] at hkind
    nomatch hkind

/-- **A field and its kind are both written, or none of them.**

**Proof sketch.** The field is the first write, and refused for its name only. A name that it takes
is taken by the second write as well, that of the kind, which therefore is not refused. -/
lemma isAtomic_putField (name v : Value) (kind : Option FieldKind) :
    IsAtomic (putField name v kind) := by
  have hfield : IsAtomic (writeField name v) := IsAtomic.after fun _ => isAtomic_modify _
  refine IsAtomic.guarded ?_ _ _
  refine hfield.bind ?_
  intro pv _ h
  exact writeKind_of_writeField h kind

end Update

/-- **Setters are atomic.** Each of them converts its arguments before it writes. -/
theorem isAtomic_of_update? {call : Call} {u : Update Unit} (h : call.update? = some u) :
    u.IsAtomic := by
  cases call <;> simp only [Call.update?, Option.some.injEq, reduceCtorEq] at h
  case setMeasurement v =>
    rw [← h]
    exact (Update.isAtomic_modify _).guarded _ _
  case setTimestamp v unit =>
    rw [← h]
    exact Update.IsAtomic.after fun _ => Update.isAtomic_modify _
  case setTag name v =>
    rw [← h]
    exact Update.IsAtomic.after fun _ => Update.isAtomic_modify _
  case setField name v =>
    rw [← h]
    exact Update.isAtomic_putField _ _ _
  case setTypedField kind name v =>
    rw [← h]
    exact Update.IsAtomic.after fun _ => Update.isAtomic_putField _ _ _

/-- A field that is put, write by write. -/
lemma commit_putField (pv : PointValues) (name v : Value) (kind : Option FieldKind) :
    pv.commit (pv.putField name v kind) =
      ((Update.putField name v kind pv).1.map fun _ => .itself,
        (Update.putField name v kind pv).2) := by
  unfold putField Update.putField
  cases name.truthy with
  | false => rfl
  | true =>
    simp only [Update.writeField, Update.writeKind]
    cases name.checkKey <;> rfl

/-- **A setter comes to its checks and writes, in order**, and answers with the row itself. -/
theorem run_of_update? {call : Call} {u : Update Unit} (h : call.update? = some u)
    (pv : PointValues) : pv.run call = ((u pv).1.map fun _ => .itself, (u pv).2) := by
  cases call <;> simp only [Call.update?, Option.some.injEq, reduceCtorEq] at h
  case setMeasurement v =>
    rw [← h, run, setMeasurement]
    cases v.isNull <;> rfl
  case setTimestamp v unit =>
    rw [← h, run, setTimestamp]
    cases Timestamp.ofApplication v unit <;> rfl
  case setTag name v =>
    rw [← h, run, setTag, Update.writeTag]
    cases name.checkKey <;> rfl
  case setField name v =>
    rw [← h, run, setField, commit_putField]
  case setTypedField kind name v =>
    rw [← h, run, setTypedField]
    cases convert kind v with
    | error fault => rfl
    | ok converted => exact commit_putField pv name converted (some kind)

/-- A call that sets one thing changes nothing if it is refused. -/
lemma run_eq_of_refused {call : Call} {u : Update Unit} (h : call.update? = some u)
    {pv : PointValues} {fault : Fault} (hrefused : (pv.run call).1 = .error fault) :
    (pv.run call).2 = pv := by
  rw [run_of_update? h] at hrefused ⊢
  exact isAtomic_of_update? h pv fault (map_eq_error_iff.mp hrefused)

/-- Entries that are stored one after the other: all of them, or those before the first that is
refused. -/
lemma storeAll_outcome (store : PointValues → Value → Value → Except Fault PointValues)
    (entries : List (Value × Value)) (pv : PointValues) {fault : Fault}
    (h : (storeAll store entries pv).1 = .error fault) :
    ∃ before name v behind, entries = before ++ (name, v) :: behind ∧
      before.foldlM (fun pv e => store pv e.1 e.2) pv = .ok (storeAll store entries pv).2 ∧
      store (storeAll store entries pv).2 name v = .error fault := by
  induction entries generalizing pv with
  | nil => nomatch h
  | cons e rest ih =>
    obtain ⟨name, v⟩ := e
    simp only [storeAll] at h ⊢
    cases hstore : store pv name v with
    | error fault' =>
      rw [hstore] at h
      obtain rfl := Except.error.inj h
      exact ⟨[], name, v, rest, rfl, rfl, hstore⟩
    | ok pv' =>
      rw [hstore] at h
      obtain ⟨before, name', v', behind, hrest, hbefore, hrefused⟩ := ih pv' h
      refine ⟨(name, v) :: before, name', v', behind, ?_, ?_, hrefused⟩
      · rw [hrest]
        rfl
      · rw [List.foldlM_cons, hstore]
        exact hbefore

end PointValues

/-- What has entries is the dictionary of them. -/
lemma Value.eq_dict_of_dictEntries {v : Value} {entries : List (Value × Value)}
    (h : v.dictEntries = .ok entries) : v = .dict entries := by
  cases v with
  | dict entries' => rw [Except.ok.inj h]
  | _ => cases h

/-! ## Objects -/

namespace Registry

variable {r r' : Registry} {objects : List Handle}

/-- A row that is replaced by itself changes nothing. -/
lemma update_row (r : Registry) (i : Nat) : r.update i (r.row i) = r := by
  by_cases hi : i < r.rows.length
  · simp [update, row, hi]
  · simp [update, List.set_eq_of_length_le (Nat.le_of_not_lt hi)]

/-- A call is refused for the fault of its row. -/
lemma run_of_perform {o : Handle} {call : PointValues.Call} {fault : Fault}
    (h : (r.perform (.call o call)).1 = .error fault) :
    ((r.row o.index).run call).1 = .error fault := by
  simp only [perform] at h
  exact map_eq_error_iff.mp h

/-- A field that is set. -/
lemma perform_setField_of_ok {o : Handle} {name v : Value} {pv : PointValues}
    (h : (r.row o.index).setField name v = .ok pv) :
    r.perform (.call o (.setField name v)) = (.ok (.answer .itself), r.update o.index pv) := by
  simp only [perform, PointValues.run, h]
  rfl

/-- A field that is refused. -/
lemma perform_setField_of_error {o : Handle} {name v : Value} {fault : Fault}
    (h : (r.row o.index).setField name v = .error fault) :
    r.perform (.call o (.setField name v)) = (.error fault, r) := by
  simp only [perform, PointValues.run, h, PointValues.commit, update_row]
  rfl

/-- Fields that are set on an object one after the other, none of which is refused. -/
inductive SetsFields (o : Handle) : Registry → List (Value × Value) → Registry → Prop where
  /-- No field is left. -/
  | done (r : Registry) : SetsFields o r [] r
  /-- A field is set, and the others after it. -/
  | set {r r' r'' : Registry} {name v : Value} {rest : List (Value × Value)}
    (h : r.perform (.call o (.setField name v)) = (.ok (.answer .itself), r'))
    (hrest : SetsFields o r' rest r'') : SetsFields o r ((name, v) :: rest) r''

/-- Fields that the row of an object takes one after the other are set on the object. -/
lemma setsFields_of_foldlM {o : Handle} (entries : List (Value × Value)) (r : Registry)
    (hi : o.index < r.rows.length) {pv : PointValues}
    (h : entries.foldlM (fun pv e => PointValues.setField pv e.1 e.2) (r.row o.index) = .ok pv) :
    SetsFields o r entries (r.update o.index pv) := by
  induction entries generalizing r with
  | nil =>
    obtain rfl := Except.ok.inj h
    rw [update_row]
    exact .done r
  | cons e rest ih =>
    obtain ⟨name, v⟩ := e
    rw [List.foldlM_cons] at h
    obtain ⟨pv', hset, hrest⟩ := bind_eq_ok_iff.mp h
    have hnext := ih (r.update o.index pv') (by simpa [update] using hi)
      (by rw [r.row_update o.index pv' hi]; exact hrest)
    have htwice : (r.update o.index pv').update o.index pv = r.update o.index pv := by
      simp [update]
    rw [htwice] at hnext
    exact .set (perform_setField_of_ok hset) hnext

section Made

variable {o : Handle} {fault : Fault}

/-- **A refused setter changes no row.** -/
lemma perform_eq_of_refused {call : PointValues.Call} {u : PointValues.Update Unit}
    (h : call.update? = some u) (hrefused : (r.perform (.call o call)).1 = .error fault) :
    (r.perform (.call o call)).2 = r := by
  have hrun := PointValues.run_eq_of_refused h (run_of_perform hrefused)
  simp only [perform, hrun]
  exact update_row r o.index

/-- **Setting many fields stops at the first refusal**, and keeps what was set before it.

**Proof sketch.** What is no dictionary is refused before any field is set. Otherwise the row has
taken the entries before the first that it refuses (`PointValues.storeAll_outcome`), and each of
these is a field that is set on the object. -/
theorem Made.setFields_outcome (h : r.Made objects) (ho : o ∈ objects) (fields : Value)
    (hrefused : (r.perform (.call o (.setFields fields))).1 = .error fault) :
    fields.dictEntries = .error fault ∧ (r.perform (.call o (.setFields fields))).2 = r ∨
      ∃ before name v behind, fields = .dict (before ++ (name, v) :: behind) ∧
        SetsFields o r before (r.perform (.call o (.setFields fields))).2 ∧
        (r.perform (.call o (.setFields fields))).2.perform (.call o (.setField name v)) =
          (.error fault, (r.perform (.call o (.setFields fields))).2) := by
  have hi : o.index < r.rows.length := h.isSound.exist o ho
  have hrun := run_of_perform hrefused
  simp only [Registry.perform]
  simp only [PointValues.run] at hrun ⊢
  cases hentries : fields.dictEntries with
  | error fault' =>
    rw [hentries] at hrun
    obtain rfl := Except.error.inj hrun
    exact .inl ⟨rfl, update_row r o.index⟩
  | ok entries =>
    rw [hentries] at hrun
    obtain ⟨before, name, v, behind, hsplit, hbefore, hname⟩ :=
      PointValues.storeAll_outcome PointValues.setField entries _ hrun
    refine .inr ⟨before, name, v, behind, ?_, setsFields_of_foldlM before r hi hbefore, ?_⟩
    · rw [Value.eq_dict_of_dictEntries hentries, hsplit]
    · apply perform_setField_of_error
      rw [r.row_update o.index _ hi]
      exact hname

/-- A refused copy changes nothing. -/
lemma pointOf_of_refused (hrefused : (r.pointOf o).1 = .error fault) : (r.pointOf o).2 = r := by
  unfold pointOf at hrefused ⊢
  split
  · rfl
  · next p hshape hp =>
    simp only [hshape, hp] at hrefused
    nomatch hrefused
  · rfl

/-- A row with a measurement is made a point of. -/
lemma pointOf_of_measured (hshape : o.shape = .row)
    (hmeasured : (r.row o.index).measurement.isNull = false) : (r.pointOf o).1 ≠ .error fault := by
  simp only [pointOf, hshape, Point.ofValues, hmeasured]
  nofun

/-- **A row that is not made a point of keeps its measurement.**

**Proof sketch.** A measurement that is given is set first, but then there is one and the point is
made. If none is given, nothing is set. -/
lemma Made.asPoint_of_refused (h : r.Made objects) (ho : o ∈ objects) (measurement : Value)
    (hrefused : (r.perform (.asPoint o measurement)).1 = .error fault) :
    (r.perform (.asPoint o measurement)).2 = r := by
  have hi : o.index < r.rows.length := h.isSound.exist o ho
  simp only [Registry.perform] at hrefused ⊢
  cases hshape : o.shape with
  | point => rfl
  | row =>
    rw [hshape] at hrefused
    cases hnull : measurement.isNull with
    | true =>
      simp only [hnull, if_true, update_row] at hrefused ⊢
      exact pointOf_of_refused hrefused
    | false =>
      simp only [hnull, Bool.false_eq_true, if_false, PointValues.setMeasurement] at hrefused
      refine absurd hrefused (pointOf_of_measured hshape ?_)
      rw [r.row_update o.index _ hi]
      exact hnull

/-- **What is refused leaves everything as it was.** Let there be any objects that operations have
made. A call that sets the measurement, the timestamp, one tag or one field of a row or point, as it
is or converted to a kind, comes to its checks and writes in their order; if it is refused, nothing
has been written. If fields are set by the entries of a dictionary and this is refused, then so is
the entry of some field, and what is left is what comes of setting the fields before it one after
the other; what is no dictionary sets nothing. A row that is not made a point of is as it was. -/
theorem Made.refused_intact (h : r.Made objects) (ho : o ∈ objects) :
    (∀ call u, PointValues.Call.update? call = some u →
      (r.row o.index).run call =
          ((u (r.row o.index)).1.map fun _ => .itself, (u (r.row o.index)).2) ∧
        ∀ fault, (r.perform (.call o call)).1 = .error fault →
          (r.perform (.call o call)).2 = r) ∧
      (∀ fields fault, (r.perform (.call o (.setFields fields))).1 = .error fault →
        fields.dictEntries = .error fault ∧ (r.perform (.call o (.setFields fields))).2 = r ∨
          ∃ before name v behind, fields = .dict (before ++ (name, v) :: behind) ∧
            SetsFields o r before (r.perform (.call o (.setFields fields))).2 ∧
            (r.perform (.call o (.setFields fields))).2.perform (.call o (.setField name v)) =
              (.error fault, (r.perform (.call o (.setFields fields))).2)) ∧
      ∀ measurement fault, (r.perform (.asPoint o measurement)).1 = .error fault →
        (r.perform (.asPoint o measurement)).2 = r := by
  refine ⟨?_, ?_, ?_⟩
  · intro call u hu
    refine ⟨PointValues.run_of_update? hu _, ?_⟩
    intro fault hrefused
    exact perform_eq_of_refused hu hrefused
  · intro fields fault hrefused
    exact h.setFields_outcome ho fields hrefused
  · intro measurement fault hrefused
    exact h.asPoint_of_refused ho measurement hrefused

end Made

/-- A row without a measurement, with a tag and an integer field. -/
def unnamedRow : Registry :=
  [.newRow .null, .call ⟨.row, 0⟩ (.setTag (.text "room") (.text "hall")),
    .call ⟨.row, 0⟩ (.setTypedField .integer (.text "count") (.int 7))].foldl
      (fun r op => (r.perform op).2) .empty

/-- The row is all that these operations make. -/
lemma made_unnamedRow : unnamedRow.Made [⟨.row, 0⟩] := by
  have hrow := Made.empty.perform (.newRow .null) nofun
  have htag := hrow.perform (.call ⟨.row, 0⟩ (.setTag (.text "room") (.text "hall"))) (by decide)
  exact htag.perform (.call ⟨.row, 0⟩ (.setTypedField .integer (.text "count") (.int 7)))
    (by decide)

/-- Three fields, the second of which has no name. -/
def halfNamed : Value :=
  .dict [(.text "low", .int 1), (.text "", .int 2), (.text "high", .int 3)]

/-- A count that is no number is not set, and the row keeps its tag and the count it has. Of three
fields the first is set up to the one without a name, beside the count, and no point is made of a
row without a measurement. -/
theorem refused_intact_unnamedRow :
    unnamedRow.Made [⟨.row, 0⟩] ∧
      (unnamedRow.row 0).tags.entries = [(.text "room", .text "hall")] ∧
      (unnamedRow.row 0).fields.entries = [(.text "count", .int 7)] ∧
      (unnamedRow.row 0).kind? (.text "count") = some .integer ∧
      (unnamedRow.perform
        (.call ⟨.row, 0⟩ (.setTypedField .integer (.text "count") (.text "many")))).2 = unnamedRow ∧
      ((unnamedRow.perform (.call ⟨.row, 0⟩ (.setFields halfNamed))).2.row 0).fields.entries =
        [(.text "count", .int 7), (.text "low", .int 1)] ∧
      (∃ before name v behind, halfNamed = .dict (before ++ (name, v) :: behind) ∧
        SetsFields ⟨.row, 0⟩ unnamedRow before
          (unnamedRow.perform (.call ⟨.row, 0⟩ (.setFields halfNamed))).2) ∧
      (unnamedRow.perform (.asPoint ⟨.row, 0⟩ .null)).2 = unnamedRow := by
  obtain ⟨hset, hfields, hpoint⟩ := made_unnamedRow.refused_intact (o := ⟨.row, 0⟩) (by decide)
  refine ⟨made_unnamedRow, rfl, rfl, rfl, (hset _ _ rfl).2 _ rfl, rfl, ?_, hpoint .null _ rfl⟩
  rcases hfields halfNamed _ rfl with ⟨hentries, -⟩ | ⟨before, name, v, behind, hsplit, hbefore, -⟩
  · nomatch hentries
  · exact ⟨before, name, v, behind, hsplit, hbefore⟩

end Registry

end SeriesClient
