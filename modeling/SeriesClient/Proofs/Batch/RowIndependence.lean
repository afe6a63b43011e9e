import SeriesClient.Proofs.Batch.Shapes

set_option relaxedAutoImplicit false
set_option autoImplicit false

/-!
# What a row owes to the other rows

The cells of a column are read together, and in one way: as values of their type, or all of them
as plain integers, or not at all. Which way it is depends on the cells of all rows. Apart from
this, a row is decoded from its own cells.

## Main definitions

* `SeriesClient.Column.cellFault?` — what keeps a column from being read as its type.
* `SeriesClient.Column.cellAs` — what a cell comes to, by the way its column is read.
* `SeriesClient.Column.cellIn` — the cell that a column gives in a row.
* `SeriesClient.Batch.rowAlone` — the cells of one row.

## Main results

* `SeriesClient.Column.read_cell` — a column is read cell by cell, once its way is known.
* `SeriesClient.Decoder.rowUnder_eq` — a row is decoded from the cells that its columns give.
* `SeriesClient.Decoder.alone_run` — when a row is decoded as if it stood alone.
* `SeriesClient.Decoder.not_alone_spoiledHosts` — a row that is not.

## Design

The way in which a column is read is told by the fault of its first cell that cannot be read as the
type of the column. A row that stands alone is a batch of its own, of the same schema.
-/

namespace SeriesClient

/-! ## Columns -/

namespace Column

/-- What keeps a column from being read as its type: the fault of the first cell that has no value
of the type, or is out of range. Nothing keeps timestamps from being read as counts. -/
def cellFault? (c : Column) (cells : List Value) : Option CellFault :=
  match c.type with
  | .timestamp .. => none
  | type => cells.findSome? fun v => errorOf? (type.read v)

/-- What keeps a column from being read as its type is the fault of one of its cells. -/
lemma exists_of_cellFault? {c : Column} {cells : List Value} {fault : CellFault}
    (h : c.cellFault? cells = some fault) : ∃ v ∈ cells, c.type.read v = .error fault := by
  unfold cellFault? at h
  split at h
  · nomatch h
  · obtain ⟨v, hv, hfault⟩ := List.exists_of_findSome?_eq_some h
    exact ⟨v, hv, errorOf?_eq_some_iff.mp hfault⟩

/-- What a cell of a column comes to, by what keeps the column from being read as its type. -/
def cellAs (c : Column) : Option CellFault → Value → Except Fault Value
  | none, v =>
    .ok (match c.type with
      | .timestamp unit _ => if c.isTime then v else scaled unit v
      | type =>
        match type.read v with
        | .ok w => w
        | .error _ => .null)
  | some .unreadable, v => .ok (if c.type.countsAsIntegers then v else .null)
  | some (.overflow fault), _ => .error fault

/-- A column of timestamps is read count by count. -/
lemma read_of_timestamp {c : Column} {unit : Precision} {zone : Option String}
    (htype : c.type = .timestamp unit zone) (cells : List Value) :
    (c.read cells).1 = .ok (if c.isTime then cells else cells.map (scaled unit)) ∧
      c.cellFault? cells = none := by
  simp only [read, cellFault?, htype, and_self]

/-- Any other column is read as its type unless one of its cells cannot be. -/
lemma read_of_no_timestamp {c : Column} (htype : ∀ unit zone, c.type ≠ .timestamp unit zone)
    (cells : List Value) :
    (∃ values, (c.read cells).1 = .ok values ∧ c.cellFault? cells = none ∧
        List.Forall₂ (fun v w => c.type.read v = .ok w) cells values) ∨
      (∃ fault, (c.read cells).1 = .error fault ∧ c.cellFault? cells = some (.overflow fault)) ∨
      (c.read cells).1 = .ok (c.readRaw cells).1 ∧ c.cellFault? cells = some .unreadable := by
  have hfault : c.cellFault? cells = cells.findSome? fun v => errorOf? (c.type.read v) := by
    unfold cellFault?
    split
    · next h => exact absurd h (htype _ _)
    · rfl
  rw [hfault, ← errorOf?_mapM]
  unfold read
  split
  · next h => exact absurd h (htype _ _)
  · rcases hcells : cells.mapM c.type.read with fault | values
    · cases fault with
      | unreadable => exact .inr (.inr ⟨rfl, rfl⟩)
      | overflow fault => exact .inr (.inl ⟨fault, rfl, rfl⟩)
    · exact .inl ⟨values, rfl, rfl, forall₂_of_mapM_eq_ok (fun _ _ _ h => h) hcells⟩

/-- A cell that can be read is read as its type, if nothing keeps its column from it. -/
lemma cellAs_of_read {c : Column} (htype : ∀ unit zone, c.type ≠ .timestamp unit zone)
    {v w : Value} (h : c.type.read v = .ok w) : c.cellAs none v = .ok w := by
  have hcell : c.cellAs none v = .ok (match c.type.read v with
      | .ok w => w
      | .error _ => .null) := by
    rw [cellAs]
    split
    · next h' => exact absurd h' (htype _ _)
    · rfl
  rw [hcell, h]

/-- **A column is read cell by cell**, once it is known what keeps it from being read as its
type. -/
theorem read_cell (c : Column) (cells : List Value) (i : Nat) :
    (c.read cells).1.map (fun values => values[i]?.getD .null) =
      c.cellAs (c.cellFault? cells) (cells[i]?.getD .null) := by
  by_cases htype : ∃ unit zone, c.type = .timestamp unit zone
  · obtain ⟨unit, zone, htype⟩ := htype
    obtain ⟨hread, hfault⟩ := read_of_timestamp htype cells
    rw [hread, hfault]
    simp only [Except.map, cellAs, htype]
    split
    · rfl
    · rw [List.getElem?_map]
      cases cells[i]? <;> rfl
  · simp only [not_exists] at htype
    rcases read_of_no_timestamp htype cells with ⟨values, hread, hfault, hvalues⟩ |
      ⟨fault, hread, hfault⟩ | ⟨hread, hfault⟩
    · have hcell : c.type.read (cells[i]?.getD .null) = .ok (values[i]?.getD .null) := by
        by_cases hi : i < cells.length
        · have hi' : i < values.length := hvalues.length_eq ▸ hi
          rw [List.getElem?_eq_getElem hi, List.getElem?_eq_getElem hi']
          exact hvalues.get hi hi'
        · have hi' : ¬ i < values.length := hvalues.length_eq ▸ hi
          rw [List.getElem?_eq_none (by omega), List.getElem?_eq_none (by omega)]
          rfl
      rw [hread, hfault, cellAs_of_read htype hcell]
      rfl
    · rw [hread, hfault]
      rfl
    · rw [hread, hfault]
      simp only [Except.map, cellAs, readRaw]
      split
      · rfl
      · rw [List.getElem?_map]
        cases cells[i]? <;> rfl

/-- The cell that a column gives in a row, with the column. -/
def cellIn (i : Nat) (p : Field × List Value) : Except Fault (Column × Value) :=
  let c := ofField p.1
  (c.cellAs (c.cellFault? p.2) (p.2[i]?.getD .null)).map fun v => (c, v)

/-- The cell that a column gives is one of those that are read. -/
lemma cellIn_eq (i : Nat) (p : Field × List Value) :
    cellIn i p =
      ((ofField p.1).read p.2).1.map fun values => (ofField p.1, values[i]?.getD .null) := by
  rw [cellIn, ← read_cell]
  cases ((ofField p.1).read p.2).1 <;> rfl

/-- A column gives the same cell in a row as the cell alone would, if both are read alike. -/
lemma cellIn_alone {i : Nat} {p : Field × List Value}
    (h : (ofField p.1).cellFault? p.2 = (ofField p.1).cellFault? p.2[i]?.toList) :
    cellIn i p = cellIn 0 (p.1, p.2[i]?.toList) := by
  simp only [cellIn, ← h]
  cases p.2[i]? <;> rfl

end Column

/-! ## Rows from cells -/

/-- What a column gives in a row is the cell of its entry. -/
lemma RowEntry.Stands.cellIn_eq {i : Nat} {p : Field × List Value} {e : RowEntry}
    (h : Stands i p e) : Column.cellIn i p = .ok e.cell := by
  obtain ⟨values, hread, hvalue⟩ := h.raw_eq
  rw [h.column_eq] at hread
  rw [Column.cellIn_eq, hread, Except.map, hvalue, RowEntry.cell, h.column_eq]
  rfl

namespace Decoder

/-- Columns are read one after the other. -/
lemma readAll_fst (columns : List (Column × List Value)) :
    (readAll columns).1 = columns.mapM fun p => (p.1.read p.2).1 := by
  induction columns with
  | nil => rfl
  | cons p rest ih =>
    obtain ⟨c, cells⟩ := p
    rw [readAll, List.mapM_cons, ← ih]
    rcases c.read cells with ⟨fault | values, notices⟩
    · rfl
    · rcases readAll rest with ⟨fault | more, notices'⟩ <;> rfl

/-- **A row is decoded from the cells that its columns give.** -/
theorem rowUnder_eq {table : Table} {n : Nat} (htable : (table.batch n).IsTable) {index : Int}
    {i : Nat} (hindex : position? (table.batch n).rowCount index = some i)
    (hi : i < (table.batch n).rowCount) (shape : RowShape) :
    rowUnder table n (table n).1 shape index =
      ((table n).1.zip (table n).2).mapM (Column.cellIn i) >>= fun cells =>
        (shape.decode cells).1 := by
  rcases rowUnder_outcome htable hindex hi with ⟨fault, hfault, -⟩ | ⟨row, hstands, hrow⟩
  · have hcolumns : ((table n).1.zip (table n).2).mapM
        (fun p => ((Column.ofField p.1).read p.2).1) = .error fault := by
      rw [← hfault, valuesOf, readAll_fst, List.zip_map_left, List.mapM_map]
      rfl
    have hcells : ((table n).1.zip (table n).2).mapM (Column.cellIn i) = .error fault := by
      rw [funext (Column.cellIn_eq i)]
      exact mapM_map_of_error hcolumns
    rw [rowUnder, hfault, hcells]
    rfl
  · have hcells : ((table n).1.zip (table n).2).mapM (Column.cellIn i) =
        .ok (row.map RowEntry.cell) :=
      mapM_eq_ok_of_forall₂
        (List.forall₂_map_right_iff.mpr (hstands.imp fun _ _ hstand => hstand.cellIn_eq))
    rw [hrow, hcells]
    rfl

/-- Each row of a batch has a position below the number of rows. -/
lemma lt_of_position? {count : Nat} {index : Int} {i : Nat}
    (h : position? count index = some i) : i < count := by
  simp only [position?] at h
  generalize (if index < 0 then index + count else index) = j at h
  split at h
  · have hi := Option.some.inj h
    omega
  · cases h

end Decoder

/-! ## Rows that stand alone -/

/-- The stored cells of one row, column by column. -/
def Batch.rowAlone (cells : List (List Value)) (i : Nat) : List (List Value) :=
  cells.map fun column => column[i]?.toList

namespace Decoder

/-- A row that stands alone is a batch with one row. -/
lemma isTable_rowAlone {table : Table} {n m i : Nat} (htable : (table.batch n).IsTable)
    (hi : i < (table.batch n).rowCount)
    (halone : table m = ((table n).1, Batch.rowAlone (table n).2 i)) :
    (table.batch m).IsTable ∧ (table.batch m).rowCount = 1 := by
  have hcount : (table.batch m).rowCount = 1 := by
    simp only [Batch.rowCount, Table.batch] at hi
    simp only [Batch.rowCount, Table.batch, halone, Batch.rowAlone, List.head?_map, Option.map_map]
    rcases hhead : (table n).2.head? with _ | column
    · rw [hhead] at hi
      exact absurd hi (Nat.not_lt_zero i)
    · have hlength : i < column.length := by
        rw [hhead] at hi
        exact hi
      simp [List.getElem?_eq_getElem hlength]
  refine ⟨?_, hcount⟩
  have hcells : (table.batch m).cells = Batch.rowAlone (table n).2 i := by
    rw [Table.batch, halone]
  have hschema : (table.batch m).schema = (table n).1 := by
    rw [Table.batch, halone]
  rw [Batch.IsTable, hschema, hcells, hcount, Batch.rowAlone, List.forall₂_map_right_iff]
  refine htable.imp fun f column hcolumn => ?_
  obtain ⟨hlength, hholds⟩ := hcolumn
  have hcell : i < column.length := by omega
  rw [List.getElem?_eq_getElem hcell, Option.toList_some]
  refine ⟨rfl, fun v hv => ?_⟩
  rw [List.mem_singleton.mp hv]
  exact hholds _ (List.getElem_mem hcell)

/-- A row is decoded as if it stood alone if its columns are read alike without the other rows. -/
lemma rowUnder_alone {table : Table} {n m : Nat} (htable : (table.batch n).IsTable) {index : Int}
    {i : Nat} (hindex : position? (table.batch n).rowCount index = some i)
    (halone : table m = ((table n).1, Batch.rowAlone (table n).2 i))
    (halike : ∀ p ∈ (table n).1.zip (table n).2,
      (Column.ofField p.1).cellFault? p.2 = (Column.ofField p.1).cellFault? p.2[i]?.toList)
    (shape : RowShape) :
    rowUnder table n (table n).1 shape index = rowUnder table m (table m).1 shape 0 := by
  have hi : i < (table.batch n).rowCount := lt_of_position? hindex
  obtain ⟨htable', hcount'⟩ := isTable_rowAlone htable hi halone
  have hindex' : position? (table.batch m).rowCount 0 = some 0 := by
    rw [hcount']
    rfl
  have hcells : ((table n).1.zip (table n).2).mapM (Column.cellIn i) =
      ((table m).1.zip (table m).2).mapM (Column.cellIn 0) := by
    rw [halone, Batch.rowAlone, List.zip_map_right, List.mapM_map]
    exact mapM_congr (List.forall₂_same.mpr fun p hp => Column.cellIn_alone (halike p hp))
  rw [rowUnder_eq htable hindex hi, rowUnder_eq htable' hindex' (by omega), hcells]

/-- Each entry of a row comes from the cell of its column in that row, by the way that the column
is read. -/
lemma forall₂_cellAs {columns : List (Field × List Value)} {count i : Nat}
    (hcount : ∀ p ∈ columns, p.2.length = count) (hi : i < count) {row : List RowEntry}
    (h : List.Forall₂ (RowEntry.Stands i) columns row) :
    List.Forall₂ (fun p e => RowEntry.Stands i p e ∧ ∃ v, p.2[i]? = some v ∧
      e.column.cellAs (e.column.cellFault? p.2) v = .ok e.raw) columns row := by
  induction h with
  | nil => exact .nil
  | @cons p e columns row hstand _ ih =>
    have hlength : i < p.2.length := by
      rw [hcount p List.mem_cons_self]
      exact hi
    refine .cons ⟨hstand, p.2[i], List.getElem?_eq_getElem hlength, ?_⟩
      (ih fun p' hp' => hcount p' (List.mem_cons_of_mem _ hp'))
    obtain ⟨values, hread, hraw⟩ := hstand.raw_eq
    have hcell := Column.read_cell e.column p.2 i
    rw [List.getElem?_eq_getElem hlength, Option.getD_some, hread, Except.map, hraw] at hcell
    exact hcell.symm

/-- **When a row is decoded as if it stood alone.** Let a decoder be asked for a row in range of a
batch as it comes from the server, and another one for the only row of the batch that has just this
row, after any calls that have left the schema of the batch in force. If each column is read in the
same way with and without the other rows, all shapes of the row are the same. Whatever way the
columns are read, unless a cell of the batch is out of range, the three shapes are made from entries
that come from the cells of this row alone, by the way of each column.

**Proof sketch.** A column is read cell by cell, once it is known what keeps it from being read as
its type. So a row is decoded from the cells that its columns give, and these are the same if the
way is. -/
theorem alone_run {table : Table} {n m : Nat} (htable : (table.batch n).IsTable) {index : Int}
    {i : Nat} (hindex : position? (table.batch n).rowCount index = some i)
    (halone : table m = ((table n).1, Batch.rowAlone (table n).2 i)) (calls calls' : List Call)
    (hown : (Memory.run table calls).kept ≠ some n ∨
      (Memory.run table calls).asked = some (table n).1)
    (hown' : (Memory.run table calls').kept ≠ some m ∨
      (Memory.run table calls').asked = some (table m).1) :
    ((∀ p ∈ (table n).1.zip (table n).2,
        (Column.ofField p.1).cellFault? p.2 = (Column.ofField p.1).cellFault? p.2[i]?.toList) →
      ∀ shape, ((run table calls).decode shape (table.batch n) index).1.1 =
        ((run table calls').decode shape (table.batch m) 0).1.1) ∧
    ((∀ fault, ¬ (table.batch n).Overflows fault) →
      ∃ row, List.Forall₂ (fun p e => RowEntry.Stands i p e ∧ ∃ v, p.2[i]? = some v ∧
          e.column.cellAs (e.column.cellFault? p.2) v = .ok e.raw)
          ((table n).1.zip (table n).2) row ∧
        RowShape.Agree
          (fun shape => ((run table calls).decode shape (table.batch n) index).1.1) row) := by
  have hi : i < (table.batch n).rowCount := lt_of_position? hindex
  simp only [decode_run, Memory.inForce_own hown, Memory.inForce_own hown']
  constructor
  · intro halike shape
    exact rowUnder_alone htable hindex halone halike shape
  · intro hrange
    rcases rowUnder_outcome htable hindex hi with ⟨fault, -, hfault⟩ | ⟨row, hstands, hrow⟩
    · exact absurd hfault (hrange fault)
    · have hlengths : ∀ p ∈ (table n).1.zip (table n).2, p.2.length = (table.batch n).rowCount :=
        fun p hp => ((List.forall₂_iff_zip.mp htable).2 hp).1
      refine ⟨row, forall₂_cellAs hlengths hi hstands, ?_⟩
      simp only [hrow]
      exact agree_decode (RowEntry.isDecoded_of_stands hstands)

/-- A batch whose last row has a clock reading that is too fine, and that row alone. -/
def fineClocks : Table := fun n =>
  ([⟨"host", .text .plain, [(Column.roleKey, "iox::column_type::tag")]⟩,
    ⟨"clock", .time .nano, []⟩],
   if n = 0 then [[.text "a", .text "b"], [.int 1000, .int 1001]] else [[.text "b"], [.int 1001]])

/-- The last row is the same without the others, since it is what keeps the clock readings from
being read as such. -/
theorem alone_fineClocks :
    (fineClocks.batch 0).IsTable ∧ position? (fineClocks.batch 0).rowCount (-1) = some 1 ∧
      fineClocks 1 = ((fineClocks 0).1, Batch.rowAlone (fineClocks 0).2 1) ∧
      (Memory.run fineClocks []).kept ≠ some 0 ∧ (Memory.run fineClocks [.release]).kept ≠ some 1 ∧
      (∀ p ∈ (fineClocks 0).1.zip (fineClocks 0).2,
        (Column.ofField p.1).cellFault? p.2 = (Column.ofField p.1).cellFault? p.2[1]?.toList) ∧
      ∀ shape, ((run fineClocks []).decode shape (fineClocks.batch 0) (-1)).1.1 =
        ((run fineClocks [.release]).decode shape (fineClocks.batch 1) 0).1.1 := by
  have htable : (fineClocks.batch 0).IsTable := by decide
  have hindex : position? (fineClocks.batch 0).rowCount (-1) = some 1 := rfl
  have halone : fineClocks 1 = ((fineClocks 0).1, Batch.rowAlone (fineClocks 0).2 1) := rfl
  have hkept : (Memory.run fineClocks []).kept ≠ some 0 := nofun
  have hkept' : (Memory.run fineClocks [.release]).kept ≠ some 1 := nofun
  have halike : ∀ p ∈ (fineClocks 0).1.zip (fineClocks 0).2,
      (Column.ofField p.1).cellFault? p.2 = (Column.ofField p.1).cellFault? p.2[1]?.toList := by
    intro p hp
    rcases List.mem_cons.mp hp with rfl | hp
    · rfl
    · obtain rfl := List.mem_singleton.mp hp
      rfl
  exact ⟨htable, hindex, halone, hkept, hkept', halike,
    (alone_run htable hindex halone [] [.release] (.inl hkept) (.inl hkept')).1 halike⟩

/-- A batch with a host that is no text, and its first row alone. -/
def spoiledHosts : Table := fun n =>
  ([⟨"host", .text .plain, []⟩],
   if n = 0 then [[.text "a", .bytes [0xff]]] else [[.text "a"]])

/-- The first host is lost, since the other one is no text. -/
theorem not_alone_spoiledHosts :
    (spoiledHosts.batch 0).IsTable ∧ position? (spoiledHosts.batch 0).rowCount 0 = some 0 ∧
      spoiledHosts 1 = ((spoiledHosts 0).1, Batch.rowAlone (spoiledHosts 0).2 0) ∧
      (new.decode .list (spoiledHosts.batch 0) 0).1.1 ≠
        (new.decode .list (spoiledHosts.batch 1) 0).1.1 := by
  have htable : (spoiledHosts.batch 0).IsTable := by decide
  have hindex : position? (spoiledHosts.batch 0).rowCount 0 = some 0 := rfl
  have hbytes : Utf8.decode? [0xff] = none := by
    rw [Utf8.decode?, Utf8.characters]
    rfl
  have hcells : ((spoiledHosts 0).1.zip (spoiledHosts 0).2).mapM (Column.cellIn 0) =
      .ok [(Column.ofField ⟨"host", .text .plain, []⟩, .null)] := by
    have hfault : Column.cellFault? (Column.ofField ⟨"host", .text .plain, []⟩)
        [.text "a", .bytes [0xff]] = some .unreadable := by
      simp [Column.cellFault?, Column.ofField, CellType.read, CellType.readPresent,
        CellType.readText, hbytes, errorOf?, Value.isNull]
    rw [spoiledHosts, if_pos rfl, List.zip_cons_cons, List.mapM_cons, Column.cellIn, hfault]
    rfl
  have hspoiled : (new.decode .list (spoiledHosts.batch 0) 0).1.1 =
      .ok (.value (.list [.null])) := by
    rw [decode_new, rowUnder_eq htable hindex (by decide), hcells]
    rfl
  have halone : (new.decode .list (spoiledHosts.batch 1) 0).1.1 =
    .ok (.value (.list [.text "a"])) := rfl
  refine ⟨htable, hindex, rfl, ?_⟩
  rw [hspoiled, halone]
  intro heq
  cases heq

end Decoder

end SeriesClient
