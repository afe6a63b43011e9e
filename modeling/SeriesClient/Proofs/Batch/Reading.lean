import SeriesClient.Proofs.Batch.Caching
import SeriesClient.Proofs.Column.Narrowing
import SeriesClient.Proofs.Result

set_option relaxedAutoImplicit false
set_option autoImplicit false

/-!
# What reading a batch comes to

A batch from the server is a table: its columns have equally many cells, and each cell is
absent or stored in the way of its type. Such a batch is read unless a cell is beyond what dates
and durations can hold, and its values are ones that every role of a column can take.

## Main definitions

* `SeriesClient.CellType.stores` — how cells of a type are stored.
* `SeriesClient.Batch.IsTable` — a batch as it comes from the server.
* `SeriesClient.Value.IsPlain` — a value that every role can take.
* `SeriesClient.Batch.Overflows` — a cell is out of range.

## Main results

* `SeriesClient.CellType.reads_read` — what is read is plain.
* `SeriesClient.Column.read_outcome` — a column is read, or one of its cells is out of range.
* `SeriesClient.Batch.IsTable.valuesOf_outcome` — so is a batch.

## Design

How the items of lists and the members of structures are stored is left open, since no role looks
inside them.
-/

namespace SeriesClient

/-! ## Doubles -/

/-- An integer of moderate size has a nearest double. -/
lemma exists_integerToDouble {n : Int} (h : n.natAbs < 2 ^ 128) :
    ∃ x, integerToDouble n = .ok x := by
  rcases hdouble : integerToDouble n with fault | x
  · have hlarge := (integerToDouble_eq_error_iff.mp hdouble).1
    have hbelow : 2 ^ 128 < 2 ^ 1024 - 2 ^ 970 := by decide +kernel
    omega
  · exact ⟨x, rfl⟩

/-! ## Plain values -/

/-- A value that every role of a column can take: it is not interned, and if it is a number, it
has a nearest double. -/
structure Value.IsPlain (v : Value) : Prop where
  /-- It is not interned. -/
  not_interned : v.isInterned = false
  /-- If it is a number, it has a nearest double. -/
  rounds : ∀ fault, v.nearestDouble? ≠ some (.error fault)

namespace Value

/-- A value that is no number is plain unless it is interned. -/
lemma isPlain_of_no_number {v : Value} (hinterned : v.isInterned = false)
    (h : v.nearestDouble? = none) : v.IsPlain := by
  refine ⟨hinterned, fun fault hfault => ?_⟩
  rw [h] at hfault
  cases hfault

/-- A number that has a nearest double is plain unless it is interned. -/
lemma isPlain_of_double {v : Value} {x : Floating} (hinterned : v.isInterned = false)
    (h : v.nearestDouble? = some (.ok x)) : v.IsPlain := by
  refine ⟨hinterned, fun fault hfault => ?_⟩
  rw [h] at hfault
  cases hfault

/-- An integer of moderate size is plain. -/
lemma isPlain_int {n : Int} (h : n.natAbs < 2 ^ 128) : (int n).IsPlain := by
  obtain ⟨x, hx⟩ := exists_integerToDouble h
  exact isPlain_of_double rfl (congrArg some hx)

/-- A truth value is plain. -/
lemma isPlain_bool (b : Bool) : (bool b).IsPlain := by
  obtain ⟨x, hx⟩ : ∃ x, integerToDouble (if b then 1 else 0) = .ok x := by
    apply exists_integerToDouble
    cases b <;> decide
  exact isPlain_of_double rfl (congrArg some hx)

/-- An absent value is plain. -/
lemma isPlain_null : null.IsPlain := isPlain_of_no_number rfl rfl

end Value

/-! ## Cells -/

namespace CellType

/-- Whether a value is how a cell of a type is stored that is not absent. -/
def stores : CellType → Value → Bool
  | .integer .., .int n => n.natAbs < 2 ^ 64
  | .floating _, .float _ => true
  | .bool, .bool _ => true
  | .text _, .text _ => true
  | .text _, .bytes _ => true
  | .binary, .bytes _ => true
  | .date _, .int n => n.natAbs < 2 ^ 64
  | .time _, .int n => n.natAbs < 2 ^ 64
  | .timestamp .., .int n => n.natAbs < 2 ^ 64
  | .duration _, .int n => n.natAbs < 2 ^ 64
  | .decimal .., .decimal (.finite ..) => true
  | .list _, .list _ => true
  | .struct _, .dict _ => true
  | .dictionary item, v => stores item v
  | _, _ => false

/-- A cell that is stored as an integer or a truth value is plain as it is stored. -/
lemma isPlain_of_counts {type : CellType} {v : Value} (h : type.stores v = true)
    (hcounts : type.countsAsIntegers = true) : v.IsPlain := by
  fun_induction stores type v with
  | case1 _ _ n | case8 _ n | case9 _ _ n | case10 _ n =>
    exact Value.isPlain_int (Nat.lt_trans (of_decide_eq_true h) (by decide))
  | case3 b => exact Value.isPlain_bool b
  | case14 item v ih => exact ih h hcounts
  | case15 => nomatch h
  | _ => nomatch hcounts

/-- What is read from a cell that is not absent is plain. -/
lemma isPlain_readPresent {type : CellType} {v w : Value} (hstored : type.stores v = true)
    (h : readPresent type v = .ok w) : w.IsPlain := by
  fun_induction stores type v generalizing w with
  | case1 _ _ n =>
    obtain rfl : Value.int n = w := by simpa [readPresent] using h
    exact Value.isPlain_int (Nat.lt_trans (of_decide_eq_true hstored) (by decide))
  | case2 width x =>
    obtain rfl : readFloating width (.float x) = w := by simpa [readPresent] using h
    exact Value.isPlain_of_double rfl rfl
  | case3 b =>
    obtain rfl : Value.bool b = w := by simpa [readPresent] using h
    exact Value.isPlain_bool b
  | case4 _ s =>
    obtain rfl : Value.text s = w := by simpa [readPresent, readText] using h
    exact Value.isPlain_of_no_number rfl rfl
  | case5 _ bs =>
    simp only [readPresent, readText] at h
    split at h
    · obtain rfl := Except.ok.inj h
      exact Value.isPlain_of_no_number rfl rfl
    · cases h
  | case6 bs =>
    obtain rfl : Value.bytes bs = w := by simpa [readPresent] using h
    exact Value.isPlain_of_no_number rfl rfl
  | case7 | case8 | case9 | case12 | case13 =>
    -- whatever is read here, it is no number
    rw [readPresent] at h
    obtain ⟨_, -, hread⟩ := bind_eq_ok_iff.mp h
    obtain rfl := Except.ok.inj hread
    exact Value.isPlain_of_no_number rfl rfl
  | case10 =>
    rw [readPresent] at h
    obtain ⟨_, -, h⟩ := bind_eq_ok_iff.mp h
    obtain ⟨_, -, hread⟩ := bind_eq_ok_iff.mp h
    obtain rfl := Except.ok.inj hread
    exact Value.isPlain_of_no_number rfl rfl
  | case11 _ scale negative c e =>
    obtain rfl : readDecimal scale (.decimal (.finite negative c e)) = w := by
      simpa [readPresent] using h
    simp only [readDecimal, DecimalNumber.rescale]
    split <;> exact Value.isPlain_of_double rfl rfl
  | case14 item v ih =>
    rw [readPresent] at h
    exact ih hstored h
  | case15 => cases hstored

/-- Whether a value is how a cell of a type is stored. -/
def holds (type : CellType) (v : Value) : Bool := v.isNull || type.stores v

/-- What is stored is nothing, or a cell that is not absent. -/
lemma null_or_stores {type : CellType} {v : Value} (h : type.holds v = true) :
    v = .null ∨ type.stores v = true := by
  rwa [holds, Bool.or_eq_true, Value.isNull_iff] at h

end CellType

/-- What a value that is read is to its cell: it is plain, and absent if the cell is. -/
structure Value.Reads (stored v : Value) : Prop where
  /-- The value is plain. -/
  isPlain : v.IsPlain
  /-- It is absent if the cell is. -/
  null_of_null : stored = .null → v = .null

/-- A cell is read to a plain value, absent if the cell is. -/
theorem CellType.reads_read {type : CellType} {v w : Value} (hholds : type.holds v = true)
    (h : type.read v = .ok w) : v.Reads w := by
  rcases CellType.null_or_stores hholds with rfl | hstored
  · obtain rfl : Value.null = w := by simpa [CellType.read_null] using h
    exact ⟨Value.isPlain_null, fun _ => rfl⟩
  · by_cases hnull : v = .null
    · rw [hnull, CellType.read_null] at h
      obtain rfl := Except.ok.inj h
      exact ⟨Value.isPlain_null, fun _ => rfl⟩
    · have hpresent : ¬ v.isNull = true := fun h => hnull (Value.isNull_iff.mp h)
      rw [CellType.read, if_neg hpresent] at h
      exact ⟨CellType.isPlain_readPresent hstored h, fun hv => absurd hv hnull⟩

/-! ## Columns -/

namespace Column

/-- A count of a timestamp column is plain in nanoseconds, too. -/
lemma reads_scaled {unit unit' : Precision} {zone : Option String} {v : Value}
    (hholds : (CellType.timestamp unit' zone).holds v = true) : v.Reads (scaled unit v) := by
  rcases CellType.null_or_stores hholds with rfl | hstored
  · exact ⟨Value.isPlain_null, fun _ => rfl⟩
  · obtain ⟨n, rfl, hn⟩ : ∃ n, v = .int n ∧ n.natAbs < 2 ^ 64 := by
      cases v with
      | int n => exact ⟨n, rfl, of_decide_eq_true hstored⟩
      | _ => nomatch hstored
    have hscale : (unit.scale : Int).natAbs ≤ 2 ^ 30 := by cases unit <;> decide
    have hproduct : (n * unit.scale).natAbs < 2 ^ 128 := by
      rw [Int.natAbs_mul]
      calc n.natAbs * (unit.scale : Int).natAbs
          ≤ n.natAbs * 2 ^ 30 := Nat.mul_le_mul_left _ hscale
        _ < 2 ^ 64 * 2 ^ 30 := Nat.mul_lt_mul_of_pos_right hn (by decide)
        _ < 2 ^ 128 := by decide
    exact ⟨Value.isPlain_int hproduct, nofun⟩

/-- Cells that are read as plain integers are plain, or absent. -/
lemma reads_readRaw {c : Column} {cells : List Value} (h : ∀ v ∈ cells, c.type.holds v = true) :
    List.Forall₂ Value.Reads cells (c.readRaw cells).1 := by
  unfold readRaw
  split
  · next hcounts =>
    refine List.forall₂_same.mpr fun v hv => ⟨?_, id⟩
    rcases CellType.null_or_stores (h v hv) with rfl | hstored
    · exact Value.isPlain_null
    · exact CellType.isPlain_of_counts hstored hcounts
  · refine List.forall₂_map_right_iff.mpr (List.forall₂_same.mpr fun v _ => ?_)
    exact ⟨Value.isPlain_null, fun _ => rfl⟩

/-- **A column is read unless one of its cells is out of range.** Each of its values is plain, and
absent if its cell is. -/
theorem read_outcome {c : Column} {cells : List Value} (h : ∀ v ∈ cells, c.type.holds v = true) :
    (∃ fault, (c.read cells).1 = .error fault ∧
        ∃ v ∈ cells, c.type.read v = .error (.overflow fault)) ∨
      ∃ values, (c.read cells).1 = .ok values ∧ List.Forall₂ Value.Reads cells values := by
  unfold read
  split
  · next unit zone htype =>
    rw [htype] at h
    refine .inr ⟨_, rfl, ?_⟩
    split
    · refine List.forall₂_same.mpr fun v hv => ⟨?_, id⟩
      rcases CellType.null_or_stores (h v hv) with rfl | hstored
      · exact Value.isPlain_null
      · exact CellType.isPlain_of_counts hstored rfl
    · exact List.forall₂_map_right_iff.mpr (List.forall₂_same.mpr fun v hv => reads_scaled (h v hv))
  · split
    · next values hvalues =>
      refine .inr ⟨values, rfl, ?_⟩
      exact forall₂_of_mapM_eq_ok (fun v hv _ hread => CellType.reads_read (h v hv) hread) hvalues
    · next fault hfault =>
      obtain ⟨v, hv, hread⟩ := exists_of_mapM_eq_error hfault
      exact .inl ⟨fault, rfl, v, hv, hread⟩
    · exact .inr ⟨_, rfl, reads_readRaw h⟩

end Column

/-! ## Batches -/

/-- A batch as it comes from the server: each of its columns has as many cells as the batch has
rows, stored in the way of their type. -/
def Batch.IsTable (b : Batch) : Prop :=
  List.Forall₂ (fun (f : Field) column =>
    column.length = b.rowCount ∧ ∀ v ∈ column, f.type.holds v = true) b.schema b.cells

instance (b : Batch) : Decidable b.IsTable :=
  inferInstanceAs (Decidable (List.Forall₂ _ b.schema b.cells))

/-- A cell is beyond what dates and durations can hold. -/
def Batch.Overflows (b : Batch) (fault : Fault) : Prop :=
  ∃ p ∈ b.schema.zip b.cells, ∃ v ∈ p.2, p.1.type.read v = .error (.overflow fault)

/-- What the values of a column are to the field with its cells. -/
def Column.ReadAs (p : Field × List Value) (values : List Value) : Prop :=
  ((Column.ofField p.1).read p.2).1 = .ok values ∧ List.Forall₂ Value.Reads p.2 values

/-- **Columns are read one after the other, unless a cell of one of them is out of range.** -/
lemma Decoder.readAll_outcome {schema : List Field} {cells : List (List Value)}
    (h : List.Forall₂ (fun (f : Field) column => ∀ v ∈ column, f.type.holds v = true)
      schema cells) :
    (∃ fault, (readAll ((schema.map Column.ofField).zip cells)).1 = .error fault ∧
        ∃ p ∈ schema.zip cells, ∃ v ∈ p.2, p.1.type.read v = .error (.overflow fault)) ∨
      ∃ values, (readAll ((schema.map Column.ofField).zip cells)).1 = .ok values ∧
        List.Forall₂ Column.ReadAs (schema.zip cells) values := by
  induction h with
  | nil => exact .inr ⟨[], rfl, .nil⟩
  | @cons f column schema cells hcolumn _ ih =>
    simp only [List.map_cons, List.zip_cons_cons, readAll]
    rcases hread : (Column.ofField f).read column with ⟨result, notices⟩
    have hresult : ((Column.ofField f).read column).1 = result := by rw [hread]
    rcases Column.read_outcome (c := Column.ofField f) hcolumn with
      ⟨fault, hfault, v, hv, hoverflow⟩ | ⟨values, hvalues, hreads⟩
    · rw [hresult] at hfault
      rw [hfault]
      exact .inl ⟨fault, rfl, (f, column), List.mem_cons_self, v, hv, hoverflow⟩
    · have hreadAs : Column.ReadAs (f, column) values := ⟨hvalues, hreads⟩
      rw [hresult] at hvalues
      rw [hvalues]
      dsimp only
      rcases hrest : readAll ((schema.map Column.ofField).zip cells) with ⟨result', notices'⟩
      rw [hrest] at ih
      rcases ih with ⟨fault, rfl, p, hp, hoverflow⟩ | ⟨rest, rfl, hrests⟩
      · exact .inl ⟨fault, rfl, p, List.mem_cons_of_mem _ hp, hoverflow⟩
      · exact .inr ⟨values :: rest, rfl, .cons hreadAs hrests⟩

/-- **A batch is read unless one of its cells is out of range.** -/
theorem Batch.IsTable.valuesOf_outcome {table : Decoder.Table} {n : Nat}
    (h : (table.batch n).IsTable) :
    (∃ fault, (Decoder.valuesOf table n).1 = .error fault ∧ (table.batch n).Overflows fault) ∨
      ∃ values, (Decoder.valuesOf table n).1 = .ok values ∧
        List.Forall₂ Column.ReadAs ((table n).1.zip (table n).2) values :=
  Decoder.readAll_outcome (h.imp fun _ _ hcolumn => hcolumn.2)

end SeriesClient
