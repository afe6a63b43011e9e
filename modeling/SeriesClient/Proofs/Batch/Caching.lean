import Mathlib.Tactic.Lemma
import SeriesClient.Batch.Decoder

set_option relaxedAutoImplicit false
set_option autoImplicit false

/-!
# What a decoder keeps

A decoder keeps the columns of the schema that it was asked for last, and the values of the
batch that it read last. A row is made from both. It is therefore the row that a new decoder
would make only as long as the two belong together.

## Main definitions

* `SeriesClient.Decoder.Call`, `SeriesClient.Decoder.run` — calls one after the other.
* `SeriesClient.Decoder.Memory` — what the calls so far have made a decoder keep.
* `SeriesClient.Decoder.rowUnder` — a row of a batch under the columns of some schema.
* `SeriesClient.Decoder.Keeps` — a decoder keeps what a memory says.

## Main results

* `SeriesClient.Decoder.decode_run` — a row is made under the columns of the schema that is in
  force.
* `SeriesClient.Decoder.decode_run_ne` — a list comes out short under fewer columns.
* `SeriesClient.Decoder.decode_run_eq_iff` — when a row is the one that a new decoder makes.
* `SeriesClient.Decoder.decode_stale_ne` — a row that is not.

## Design

Batches are the numbers of a table, since a decoder tells them apart by identity. What a
decoder keeps after some calls is told from the calls and the table alone.
-/

namespace SeriesClient.Decoder

/-! ## Calls -/

/-- The schemas and the stored cells of all batches, by their numbers. -/
abbrev Table := Nat → List Field × List (List Value)

/-- The batch of a number. -/
def Table.batch (table : Table) (n : Nat) : Batch := ⟨n, (table n).1, (table n).2⟩

/-- A call on a decoder. -/
inductive Call where
  /-- A row of a batch is decoded. -/
  | decode (shape : RowShape) (number : Nat) (index : Int)
  /-- The columns of a schema are asked for. -/
  | columns (schema : List Field)
  /-- The values that are kept are let go. -/
  | release

/-- The decoder after a call. -/
def after (table : Table) (d : Decoder) : Call → Decoder
  | .decode shape number index => (d.decode shape (table.batch number) index).2
  | .columns schema => d.columnsFor schema
  | .release => d.release

/-- A new decoder after calls one after the other. -/
def run (table : Table) (calls : List Call) : Decoder := calls.foldl (after table) new

/-! ## Memory -/

/-- The values of a batch under its own columns. -/
def valuesOf (table : Table) (n : Nat) : Row.Logged (List (List Value)) :=
  readAll (((table n).1.map Column.ofField).zip (table n).2)

/-- A row of a batch whose values are read under its own columns, and decoded under the columns
of some schema. -/
def rowUnder (table : Table) (n : Nat) (schema : List Field) (shape : RowShape) (index : Int) :
    Except Fault DecodedRow :=
  match (valuesOf table n).1 with
  | .error fault => .error fault
  | .ok values => (decodeRow shape ((schema.map Column.ofField).zip values) index).1

/-- What calls make a decoder keep. -/
structure Memory where
  /-- The schema that was asked for last. -/
  asked : Option (List Field)
  /-- The number of the batch that was read last. -/
  kept : Option Nat

namespace Memory

/-- What is kept after one more call. A batch that is not kept is read, and its schema asked for;
it is kept unless it cannot be read. -/
def after (table : Table) (m : Memory) : Call → Memory
  | .decode _ n _ =>
    if m.kept = some n then m
    else
      match (valuesOf table n).1 with
      | .ok _ => ⟨some (table n).1, some n⟩
      | .error _ => ⟨some (table n).1, m.kept⟩
  | .columns schema => { m with asked := some schema }
  | .release => { m with kept := none }

/-- What is kept after calls on a new decoder. -/
def run (table : Table) (calls : List Call) : Memory := calls.foldl (after table) ⟨none, none⟩

/-- The schema under whose columns a row of a batch is decoded: the one that was asked for last,
if the batch is kept, and otherwise its own. -/
def inForce (table : Table) (m : Memory) (n : Nat) : List Field :=
  if m.kept = some n then m.asked.getD [] else (table n).1

/-- The schema of a batch is in force if the batch is not kept, or its schema was asked for
last. -/
lemma inForce_own {table : Table} {m : Memory} {n : Nat}
    (h : m.kept ≠ some n ∨ m.asked = some (table n).1) : m.inForce table n = (table n).1 := by
  unfold inForce
  split
  · next hkept =>
    rw [h.resolve_left (not_not_intro hkept)]
    rfl
  · rfl

end Memory

/-- A decoder keeps what a memory says. -/
structure Keeps (table : Table) (d : Decoder) (m : Memory) : Prop where
  /-- The schema was asked for last. -/
  schema_eq : d.schema = m.asked
  /-- The columns are those of the schema. -/
  columns_eq : d.columns = (m.asked.getD []).map Column.ofField
  /-- The batch was read last. -/
  kept_eq : d.loaded.map Prod.fst = m.kept
  /-- The values are those of the batch. -/
  values_eq : ∀ n values, d.loaded = some (n, values) → (valuesOf table n).1 = .ok values

/-- The columns of a schema are made by its fields, whatever is kept. -/
lemma Keeps.columnsFor {table : Table} {d : Decoder} {m : Memory} (h : Keeps table d m)
    (schema : List Field) :
    Keeps table (d.columnsFor schema) { m with asked := some schema } ∧
      (d.columnsFor schema).columns = schema.map Column.ofField := by
  unfold Decoder.columnsFor
  split
  · next hsame =>
    have hasked : m.asked = some schema := by rw [← h.schema_eq, hsame]
    have hcolumns : d.columns = schema.map Column.ofField := by
      rw [h.columns_eq, hasked]
      rfl
    exact ⟨⟨hsame, hcolumns, h.kept_eq, h.values_eq⟩, hcolumns⟩
  · exact ⟨⟨rfl, rfl, h.kept_eq, h.values_eq⟩, rfl⟩

/-- A batch that is not kept is read under its own columns. -/
lemma Keeps.fresh {table : Table} {d : Decoder} {m : Memory} (h : Keeps table d m) (n : Nat) :
    (load.fresh d (table.batch n)).1 = valuesOf table n ∧
      (load.fresh d (table.batch n)).2.columns = (table n).1.map Column.ofField ∧
      Keeps table (load.fresh d (table.batch n)).2
        ⟨some (table n).1, match (valuesOf table n).1 with
          | .ok _ => some n
          | .error _ => m.kept⟩ := by
  obtain ⟨hkeeps, hcolumns⟩ := h.columnsFor (table n).1
  have hread : readAll ((d.columnsFor (table n).1).columns.zip (table n).2) = valuesOf table n := by
    rw [hcolumns, valuesOf]
  simp only [load.fresh, Table.batch, hread]
  rcases hvalues : valuesOf table n with ⟨fault | values, notices⟩
  · exact ⟨rfl, hcolumns, hkeeps⟩
  · refine ⟨rfl, hcolumns, hkeeps.schema_eq, hkeeps.columns_eq, rfl, ?_⟩
    intro n' values' hsome
    obtain ⟨rfl, rfl⟩ : n = n' ∧ values = values' := by simpa using hsome
    rw [hvalues]

/-- A batch that is kept is not read, and no columns are asked for. -/
lemma Keeps.load_of_kept {table : Table} {d : Decoder} {m : Memory} (h : Keeps table d m)
    {n : Nat} (hkept : m.kept = some n) :
    ∃ values, d.load (table.batch n) = ((.ok values, []), d) ∧
      (valuesOf table n).1 = .ok values := by
  obtain ⟨⟨n', values⟩, hloaded, rfl⟩ : ∃ pair, d.loaded = some pair ∧ pair.1 = n := by
    rw [← h.kept_eq] at hkept
    exact Option.map_eq_some_iff.mp hkept
  refine ⟨values, ?_, h.values_eq n' values hloaded⟩
  simp only [Decoder.load, hloaded, Table.batch, if_true]

/-- A batch that is not kept is read. -/
lemma Keeps.load_of_not_kept {table : Table} {d : Decoder} {m : Memory} (h : Keeps table d m)
    {n : Nat} (hkept : m.kept ≠ some n) :
    d.load (table.batch n) = load.fresh d (table.batch n) := by
  unfold Decoder.load
  split
  · next n' values hloaded =>
    have hne : n' ≠ (table.batch n).number := by
      rintro rfl
      apply hkept
      rw [← h.kept_eq, hloaded]
      rfl
    rw [if_neg hne]
  · rfl

/-- Reading a batch gives its values; they stand with the columns of the schema in force. -/
lemma Keeps.load {table : Table} {d : Decoder} {m : Memory} (h : Keeps table d m) (n : Nat) :
    (d.load (table.batch n)).1.1 = (valuesOf table n).1 ∧
      (d.load (table.batch n)).2.columns = (m.inForce table n).map Column.ofField ∧
      ∀ shape index, Keeps table (d.load (table.batch n)).2
        (m.after table (.decode shape n index)) := by
  by_cases hkept : m.kept = some n
  · obtain ⟨values, hload, hvalues⟩ := h.load_of_kept hkept
    rw [hload, hvalues, Memory.inForce, if_pos hkept]
    refine ⟨rfl, h.columns_eq, ?_⟩
    intro shape index
    rw [Memory.after, if_pos hkept]
    exact h
  · obtain ⟨hvalues, hcolumns, hkeeps⟩ := h.fresh n
    rw [h.load_of_not_kept hkept, hvalues, hcolumns, Memory.inForce, if_neg hkept]
    refine ⟨rfl, rfl, ?_⟩
    intro shape index
    rw [Memory.after, if_neg hkept]
    rcases hread : (valuesOf table n).1 with fault | values
    · rw [hread] at hkeeps
      exact hkeeps
    · rw [hread] at hkeeps
      exact hkeeps

/-- **A row is made under the columns of the schema in force**, and the decoder keeps what the
call makes it keep. -/
lemma Keeps.decode {table : Table} {d : Decoder} {m : Memory} (h : Keeps table d m)
    (shape : RowShape) (n : Nat) (index : Int) :
    (d.decode shape (table.batch n) index).1.1 = rowUnder table n (m.inForce table n) shape index ∧
      Keeps table (d.decode shape (table.batch n) index).2
        (m.after table (.decode shape n index)) := by
  obtain ⟨hvalues, hcolumns, hkeeps⟩ := h.load n
  specialize hkeeps shape index
  rw [rowUnder, ← hvalues, ← hcolumns, Decoder.decode]
  generalize d.load (table.batch n) = loaded at hkeeps ⊢
  rcases loaded with ⟨⟨fault | values, notices⟩, d'⟩
  · exact ⟨rfl, hkeeps⟩
  · exact ⟨rfl, hkeeps⟩

/-! ## Runs -/

/-- Nothing is kept before the first call. -/
lemma keeps_new (table : Table) : Keeps table new ⟨none, none⟩ :=
  ⟨rfl, rfl, rfl, nofun⟩

/-- A call makes a decoder keep what the memory says. -/
lemma Keeps.after {table : Table} {d : Decoder} {m : Memory} (h : Keeps table d m)
    (call : Call) : Keeps table (after table d call) (m.after table call) := by
  cases call with
  | decode shape n index => exact (h.decode shape n index).2
  | columns schema => exact (h.columnsFor schema).1
  | release => exact ⟨h.schema_eq, h.columns_eq, rfl, nofun⟩

/-- Calls make a new decoder keep what the memory says. -/
lemma keeps_run (table : Table) (calls : List Call) :
    Keeps table (run table calls) (Memory.run table calls) := by
  suffices hfold : ∀ d m, Keeps table d m →
      Keeps table (calls.foldl (Decoder.after table) d) (calls.foldl (Memory.after table) m) from
    hfold new ⟨none, none⟩ (keeps_new table)
  induction calls with
  | nil => exact fun d m h => h
  | cons call calls ih => exact fun d m h => ih _ _ (h.after call)

/-- A row after any calls is made under the columns of the schema in force. -/
theorem decode_run (table : Table) (calls : List Call) (shape : RowShape) (n : Nat) (index : Int) :
    ((run table calls).decode shape (table.batch n) index).1.1 =
      rowUnder table n ((Memory.run table calls).inForce table n) shape index :=
  ((keeps_run table calls).decode shape n index).1

/-- A new decoder makes a row under the columns of the batch. -/
lemma decode_new (table : Table) (shape : RowShape) (n : Nat) (index : Int) :
    (new.decode shape (table.batch n) index).1.1 = rowUnder table n (table n).1 shape index :=
  decode_run table [] shape n index

/-! ## Lengths of lists -/

/-- Values that are read are as many as the columns. -/
lemma length_readAll {columns : List (Column × List Value)} {values : List (List Value)}
    (h : (readAll columns).1 = .ok values) : values.length = columns.length := by
  induction columns generalizing values with
  | nil =>
    obtain rfl : [] = values := by simpa [readAll] using h
    rfl
  | cons column rest ih =>
    obtain ⟨c, cells⟩ := column
    rw [readAll] at h
    rcases hread : c.read cells with ⟨fault | v, notices⟩
    · simp only [hread] at h
      nomatch h
    · rcases hrest : readAll rest with ⟨fault | vs, more⟩
      · simp only [hread, hrest, Except.map] at h
        nomatch h
      · simp only [hread, hrest, Except.map] at h
        obtain rfl : v :: vs = values := by simpa using h
        exact congrArg Nat.succ (ih (congrArg Prod.fst hrest))

/-- A row that is complete has a cell for each column. -/
lemma length_rowCells {index : Int} {columns : List (Column × List Value)}
    (h : (rowCells index columns).2 = true) :
    (rowCells index columns).1.length = columns.length := by
  induction columns with
  | nil => rfl
  | cons column rest ih =>
    obtain ⟨c, values⟩ := column
    rw [rowCells] at h ⊢
    split at h
    · exact congrArg Nat.succ (ih h)
    · nomatch h

/-- A list is made of one value for each cell. -/
lemma length_collect {cells : List (Column × Value)} {acc : List Value} {v : Value}
    (h : (Row.collect (fun (acc : List Value) e =>
      let (result, notices) := Row.cell e.1 e.2
      (result.map (· :: acc), notices)) (fun acc => .list acc.reverse) acc cells).1 = .ok v) :
    ∃ vs, v = .list vs ∧ vs.length = acc.length + cells.length := by
  induction cells generalizing acc with
  | nil =>
    obtain rfl : Value.list acc.reverse = v := by simpa [Row.collect] using h
    exact ⟨acc.reverse, rfl, acc.length_reverse⟩
  | cons entry rest ih =>
    rw [Row.collect] at h
    rcases hcell : Row.cell entry.1 entry.2 with ⟨fault | value, notices⟩
    · simp only [hcell, Except.map] at h
      nomatch h
    · simp only [hcell, Except.map] at h
      obtain ⟨vs, rfl, hlength⟩ := ih h
      refine ⟨vs, rfl, ?_⟩
      rw [hlength, List.length_cons, List.length_cons]
      omega

/-- A list has a value for each column that is decoded. -/
lemma length_decodeRow {columns : List (Column × List Value)} {index : Int} {row : DecodedRow}
    (h : (decodeRow .list columns index).1 = .ok row) :
    ∃ vs, row = .value (.list vs) ∧ vs.length = columns.length := by
  rw [decodeRow] at h
  rcases hcells : rowCells index columns with ⟨cells, complete⟩
  rcases hlist : Row.toList cells with ⟨fault | v, notices⟩
  · simp only [hcells, RowShape.decode, hlist, Except.map] at h
    nomatch h
  · simp only [hcells, RowShape.decode, hlist, Except.map] at h
    rcases complete with _ | _
    · nomatch h
    · obtain rfl : DecodedRow.value v = row := by simpa using h
      obtain ⟨vs, rfl, hlength⟩ := length_collect (congrArg Prod.fst hlist)
      have hcomplete : (rowCells index columns).1.length = columns.length := by
        apply length_rowCells
        rw [hcells]
      rw [hcells] at hcomplete
      refine ⟨vs, rfl, ?_⟩
      rw [hlength, hcomplete, List.length_nil, Nat.zero_add]

/-- A list has a value for each column in force, as far as the batch has as many columns. -/
lemma length_rowUnder {table : Table} {n : Nat} {schema : List Field} {index : Int}
    {row : DecodedRow} (h : rowUnder table n schema .list index = .ok row) :
    ∃ vs, row = .value (.list vs) ∧
      vs.length = min schema.length (min (table n).1.length (table n).2.length) := by
  rw [rowUnder] at h
  rcases hread : (valuesOf table n).1 with fault | values
  · rw [hread] at h
    nomatch h
  · rw [hread] at h
    obtain ⟨vs, rfl, hlength⟩ := length_decodeRow h
    have hvalues := length_readAll hread
    simp only [List.length_zip, List.length_map] at hlength hvalues
    exact ⟨vs, rfl, by rw [hlength, hvalues]⟩

/-- **A list comes out short** when its batch is kept, and a schema with fewer columns than the
batch has was asked for last. -/
theorem decode_run_ne {table : Table} {calls : List Call} {n : Nat} {schema : List Field}
    {index : Int} {row : DecodedRow} (hkept : (Memory.run table calls).kept = some n)
    (hasked : (Memory.run table calls).asked = some schema)
    (hfewer : schema.length < (table n).1.length)
    (hcells : (table n).2.length = (table n).1.length)
    (hnew : (new.decode .list (table.batch n) index).1.1 = .ok row) :
    ((run table calls).decode .list (table.batch n) index).1.1 ≠ .ok row := by
  intro hrun
  rw [decode_run, Memory.inForce, if_pos hkept, hasked] at hrun
  rw [decode_new] at hnew
  obtain ⟨short, rfl, hshort⟩ := length_rowUnder hrun
  obtain ⟨full, hrow, hfull⟩ := length_rowUnder hnew
  obtain rfl : short = full := by simpa using hrow
  rw [Option.getD_some] at hshort
  omega

/-! ## What shows -/

/-- **What is kept shows only through the schema in force.** After any calls, a row is the one
that a new decoder makes exactly when it comes out the same under the schema in force as under
the schema of its batch. It does so whenever the batch is not kept, or its schema is the one that
was asked for last; a list does not if the batch is kept, and the schema that was asked for last
has fewer columns. The columns of a schema are its own after any calls.

**Proof sketch.** After any calls a decoder keeps the columns of the schema that was asked for
last, and the values of the batch that was read last under its own columns; each call keeps this
so. A row is therefore made from the values of its batch and the columns in force. -/
theorem decode_run_eq_iff (table : Table) (calls : List Call) (shape : RowShape) (n : Nat)
    (index : Int) :
    (((run table calls).decode shape (table.batch n) index).1.1 =
          (new.decode shape (table.batch n) index).1.1 ↔
        rowUnder table n ((Memory.run table calls).inForce table n) shape index =
          rowUnder table n (table n).1 shape index) ∧
      ((Memory.run table calls).kept ≠ some n ∨
          (Memory.run table calls).asked = some (table n).1 →
        ((run table calls).decode shape (table.batch n) index).1.1 =
          (new.decode shape (table.batch n) index).1.1) ∧
      (∀ schema row, (Memory.run table calls).kept = some n →
        (Memory.run table calls).asked = some schema →
        schema.length < (table n).1.length → (table n).2.length = (table n).1.length →
        (new.decode .list (table.batch n) index).1.1 = .ok row →
        ((run table calls).decode .list (table.batch n) index).1.1 ≠ .ok row) ∧
      ∀ schema, ((run table calls).columnsFor schema).columns = schema.map Column.ofField := by
  refine ⟨?_, ?_, ?_, ?_⟩
  · rw [decode_run, decode_new]
  · intro hown
    rw [decode_run, decode_new, Memory.inForce_own hown]
  · intro schema row hkept hasked hfewer hcells hnew
    exact decode_run_ne hkept hasked hfewer hcells hnew
  · intro schema
    exact ((keeps_run table calls).columnsFor schema).2

/-- Two batches: one with a host and a count, the other with a host only. -/
def hostTables : Table := fun n =>
  if n = 0 then
    ([⟨"host", .text .plain, []⟩, ⟨"count", .integer true 64, []⟩], [[.text "a"], [.int 7]])
  else ([⟨"host", .text .plain, []⟩], [[.text "b"]])

/-- A row of the first batch loses its count once the columns of the other batch were asked
for. -/
theorem decode_stale_ne :
    ((run hostTables [.decode .list 0 0, .columns (hostTables 1).1]).decode .list
        (hostTables.batch 0) 0).1.1 = .ok (.value (.list [.text "a"])) ∧
      (new.decode .list (hostTables.batch 0) 0).1.1 =
        .ok (.value (.list [.text "a", .int 7])) ∧
      ((run hostTables [.decode .list 0 0, .columns (hostTables 1).1]).decode .list
          (hostTables.batch 0) 0).1.1 ≠
        (new.decode .list (hostTables.batch 0) 0).1.1 := by
  have hstale : ((run hostTables [.decode .list 0 0, .columns (hostTables 1).1]).decode .list
      (hostTables.batch 0) 0).1.1 = .ok (.value (.list [.text "a"])) := rfl
  have hnew : (new.decode .list (hostTables.batch 0) 0).1.1 =
      .ok (.value (.list [.text "a", .int 7])) := rfl
  refine ⟨hstale, hnew, ?_⟩
  rw [hstale, hnew]
  simp

end SeriesClient.Decoder
