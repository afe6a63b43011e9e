import SeriesClient.Proofs.Batch.Contribution
import SeriesClient.Proofs.Calendar.RoundTrip

set_option relaxedAutoImplicit false
set_option autoImplicit false

/-!
# Instants in rows

A count of a timestamp column comes out of a row in nanoseconds, scaled once. Where it is scaled
depends on the role of the column: the counts of the time column when a row is decoded, by the unit
of the column; all others when the column is read.

## Main definitions

* `SeriesClient.Column.instantSlot?` — the slot that the instants of a column go to.
* `SeriesClient.CellType.IsSplit` — an instant between two microseconds.

## Main results

* `SeriesClient.CellType.readInstant_outcome` — a date-time is the instant that was counted.
* `SeriesClient.RowEntry.slot?_of_instant`, `SeriesClient.RowEntry.value_of_isTime`,
  `SeriesClient.RowEntry.value_of_count` — where an instant goes, and as what.
* `SeriesClient.Decoder.counts_run` — the counts of a timestamp column are scaled once.
* `SeriesClient.Decoder.not_scaled_farArrivals` — a count that does not come out.

## Design

Dates have years 1 to 9999, and date-times whole microseconds. An instant outside of these years is
out of range as a date-time, and one between two microseconds has none. Neither matters to the
counts of a timestamp column, which are not made into date-times.
-/

namespace SeriesClient

/-! ## Reading instants -/

/-- Something is read to a value, unless it is out of range. -/
def CellFault.Yields {α : Type} (x : Except CellFault α) (a : α) : Prop :=
  x = .ok a ∨ ∃ fault, x = .error (.overflow fault)

/-- Two steps yield what the second one yields for what the first one does. -/
lemma CellFault.Yields.bind {α β : Type} {x : Except CellFault α} {a : α}
    {f : α → Except CellFault β} {b : β} (h : Yields x a) (hf : Yields (f a) b) :
    Yields (x >>= f) b := by
  rcases h with rfl | ⟨fault, rfl⟩
  · exact hf
  · exact .inr ⟨fault, rfl⟩

namespace CellType

/-- A number of microseconds stays as it is, unless it is too many for a duration. -/
lemma checkDuration_yields (n : Int) : CellFault.Yields (checkDuration n) n := by
  unfold checkDuration
  dsimp only
  split
  · exact .inr ⟨_, rfl⟩
  · split
    · exact .inr ⟨_, rfl⟩
    · exact .inl rfl

/-- A number of days is that of a date, unless its year has no four digits. -/
lemma checkDate_yields (days : Int) : CellFault.Yields (checkDate days) (Date.ofDays days) := by
  unfold checkDate
  dsimp only
  split
  · exact .inr ⟨_, rfl⟩
  · exact .inl rfl

/-- A count of nanoseconds lies between two microseconds. -/
def IsSplit (unit : Precision) (count : Int) : Prop := unit = .nano ∧ count % 1000 ≠ 0

/-- A count is a whole number of microseconds, or lies between two of them. -/
lemma micros_outcome (unit : Precision) (count : Int) :
    (∃ n, micros unit count = .ok n ∧ n * 1000 = count * unit.scale ∧ ¬ IsSplit unit count) ∨
      micros unit count = .error .unreadable ∧ IsSplit unit count := by
  cases unit with
  | nano =>
    by_cases hwhole : count % 1000 = 0
    · refine .inl ⟨count / 1000, ?_, ?_, fun h => h.2 hwhole⟩
      · rw [micros, if_pos hwhole]
      · simp only [Precision.scale]
        omega
    · refine .inr ⟨?_, rfl, hwhole⟩
      rw [micros, if_neg hwhole]
  | second | milli | micro =>
    refine .inl ⟨_, rfl, ?_, fun h => nomatch h.1⟩
    simp only [Precision.scale]
    omega

/-- **A date-time that is read is the instant that was counted.** A count is not read if it is out
of range, or lies between two microseconds. -/
theorem readInstant_outcome (unit : Precision) (zone : Option String) (count : Int) :
    (∃ t, CellFault.Yields (readInstant unit zone count) t ∧
        t.toNanos = count * unit.scale ∧ ¬ IsSplit unit count) ∨
      readInstant unit zone count = .error .unreadable ∧ IsSplit unit count := by
  unfold readInstant
  rcases micros_outcome unit count with ⟨n, hn, hscale, hwhole⟩ | ⟨hn, hsplit⟩
  · rw [hn]
    refine .inl ⟨_, (checkDuration_yields n).bind ((checkDate_yields _).bind
      ((checkDate_yields _).bind (.inl rfl))), ?_, hwhole⟩
    rw [DateTime.toNanos, ← hscale]
    cases zone <;> exact congrArg (· * 1000) (DateTime.toMicros_ofMicros n _)
  · rw [hn]
    exact .inr ⟨rfl, hsplit⟩

/-- A cell of a timestamp column is absent or a count. -/
lemma null_or_count {unit : Precision} {zone : Option String} {v : Value}
    (h : (timestamp unit zone).holds v = true) : v = .null ∨ ∃ count, v = .int count := by
  refine (null_or_stores h).imp id fun hstored => ?_
  cases v with
  | int count => exact ⟨count, rfl⟩
  | _ => nomatch hstored

end CellType

/-! ## Where instants go -/

/-- The slot that the instants of a column go to: the timestamp for the time column, and otherwise
the field of its name, if the column is one of fields or has no role. -/
def Column.instantSlot? (c : Column) : Option Slot :=
  if c.isTime then some .timestamp
  else
    match c.role with
    | none | some (.field _) => some (.field c.name)
    | some _ => none

/-- Of the columns with a role, the timestamp column is the time column. -/
lemma Column.isTime_of_some {c : Column} {role : ColumnType} (h : c.role = some role) :
    c.isTime = (role == .timestamp) := by
  simp [isTime, h]

namespace RowEntry

variable {e : RowEntry} {nanos : Int}

/-- **An instant goes to the slot for the instants of its column.** -/
theorem slot?_of_instant (h : Timestamp.ofCell? e.raw e.column.type.unit? = some nanos) :
    e.slot? = e.column.instantSlot? := by
  obtain ⟨hnull, htext⟩ := Timestamp.not_null_of_ofCell? h
  have hinstant : e.isInstant = true := by rw [isInstant, h, Option.isSome_some]
  simp only [slot?, Column.instantSlot?, hnull, htext, hinstant, Bool.and_false, Bool.and_true,
    Bool.false_eq_true, if_false, if_true]
  rcases hrole : e.column.role with _ | role
  · dsimp only
    split <;> rfl
  · rw [Column.isTime_of_some hrole]
    rcases role with _ | _ | _ | _ <;> rfl

/-- A cell of the time column that is an instant comes out in nanoseconds. -/
theorem value_of_isTime (h : e.IsDecoded) (htime : e.column.isTime = true)
    (hnanos : Timestamp.ofCell? e.raw e.column.type.unit? = some nanos) :
    e.value = .int nanos := by
  have hnull : ¬ e.raw.isNull = true := by
    rw [(Timestamp.not_null_of_ofCell? hnanos).1]
    exact Bool.false_ne_true
  have hcell := h.cell_eq
  rcases hrole : e.column.role with _ | role
  · rw [cell_of_no_role hrole hnull, if_pos htime, hnanos] at hcell
    exact (Except.ok.inj hcell).symm
  · rw [Column.isTime_of_some hrole] at htime
    obtain rfl : role = .timestamp := of_decide_eq_true htime
    rw [cell_of_role hrole hnull, Coercion.coerce_instant hnanos] at hcell
    exact (Except.ok.inj hcell).symm

/-- An integer in a column other than the time column comes out as it is, unless it is made a
floating-point number. -/
lemma value_of_int (h : e.IsDecoded) (htime : e.column.isTime = false)
    (hfloat : e.column.role ≠ some (.field (some .float))) {n : Int} (hraw : e.raw = .int n) :
    e.value = .int n := by
  have hnull : ¬ (Value.int n).isNull = true := Bool.false_ne_true
  have hcell := h.cell_eq
  rw [hraw] at hcell
  rcases hrole : e.column.role with _ | role
  · rw [cell_of_no_role hrole hnull, if_neg (by rw [htime]; exact Bool.false_ne_true)] at hcell
    exact (Except.ok.inj hcell).symm
  · rw [Column.isTime_of_some hrole] at htime
    rw [cell_of_role hrole hnull] at hcell
    rcases role with (_ | ⟨⟨⟩⟩) | _ | _ | _
    case field.some.float => exact absurd hrole hfloat
    case timestamp => nomatch htime
    all_goals exact (Except.ok.inj hcell).symm

/-- An absent cell is absent and goes nowhere. -/
lemma value_of_null (h : e.IsDecoded) (hraw : e.raw = .null) :
    e.value = .null ∧ e.slot? = none := by
  have hcell := h.cell_eq
  rw [hraw, Row.cell_null] at hcell
  exact ⟨(Except.ok.inj hcell).symm, e.slot?_eq_none_iff.mpr (.inl hraw)⟩

/-- A cell of the time column that is an instant is the timestamp, in nanoseconds. -/
lemma timestamp_of_isTime (h : e.IsDecoded) (htime : e.column.isTime = true)
    (hnanos : Timestamp.ofCell? e.raw e.column.type.unit? = some nanos) :
    e.value = .int nanos ∧ e.slot? = some .timestamp := by
  refine ⟨value_of_isTime h htime hnanos, ?_⟩
  rw [slot?_of_instant hnanos, Column.instantSlot?, if_pos htime]

/-- **A count of a timestamp column is scaled once**: when it is read, or when it is decoded. -/
theorem value_of_count (h : e.IsDecoded) {unit : Precision} {zone : Option String}
    (htype : e.column.type = .timestamp unit zone)
    (hfloat : e.column.role ≠ some (.field (some .float))) {count : Int}
    (hraw : e.raw = if e.column.isTime then .int count else .int (count * unit.scale)) :
    e.value = .int (count * unit.scale) ∧ e.slot? = e.column.instantSlot? := by
  have hunit : e.column.type.unit? = some unit := by rw [htype, CellType.unit?_timestamp]
  rcases htime : e.column.isTime with _ | _
  · rw [htime, if_neg Bool.false_ne_true] at hraw
    have hnanos : Timestamp.ofCell? e.raw e.column.type.unit? =
        some (count * unit.scale * unit.scale) := by
      rw [hraw, hunit, Timestamp.ofCell?_int]
    exact ⟨value_of_int h htime hfloat hraw, slot?_of_instant hnanos⟩
  · rw [htime, if_pos rfl] at hraw
    have hnanos : Timestamp.ofCell? e.raw e.column.type.unit? = some (count * unit.scale) := by
      rw [hraw, hunit, Timestamp.ofCell?_int]
    exact ⟨value_of_isTime h htime hnanos, slot?_of_instant hnanos⟩

/-- **The entry of a timestamp column** is absent with its cell, and otherwise its count, scaled
once. -/
lemma Stands.counts {i : Nat} {field : Field} {cells : List Value} (h : Stands i (field, cells) e)
    {unit : Precision} {zone : Option String} (htype : field.type = .timestamp unit zone)
    (hfloat : (Column.ofField field).role ≠ some (.field (some .float)))
    (hholds : ∀ v ∈ cells, field.type.holds v = true) (hi : i < cells.length) :
    cells[i]? = some .null ∧ e.value = .null ∧ e.slot? = none ∨
      ∃ count, cells[i]? = some (.int count) ∧ e.value = .int (count * unit.scale) ∧
        e.slot? = (Column.ofField field).instantSlot? := by
  have hcolumn : e.column = Column.ofField field := h.column_eq
  have htype' : e.column.type = .timestamp unit zone := by rw [hcolumn, ← htype, Column.ofField]
  have hraw := h.raw_of_read (Column.read_of_timestamp (c := Column.ofField field) htype cells).1
  have hnull := h.null_of_null
  dsimp only at hnull
  rw [← hcolumn] at hraw hfloat ⊢
  rw [List.getElem?_eq_getElem hi] at hnull ⊢
  rcases CellType.null_or_count (htype ▸ hholds _ (List.getElem_mem hi)) with
    hcell | ⟨count, hcell⟩
  · rw [hcell] at hnull ⊢
    exact .inl ⟨rfl, value_of_null h.isDecoded (hnull rfl)⟩
  · refine .inr ⟨count, congrArg some hcell, value_of_count h.isDecoded htype' hfloat ?_⟩
    split at hraw
    · next htime =>
      rw [List.getElem?_eq_getElem hi, hcell] at hraw
      rw [if_pos htime, Option.some.inj hraw]
    · next htime =>
      rw [List.getElem?_map, List.getElem?_eq_getElem hi, hcell] at hraw
      rw [if_neg htime, ← Option.some.inj hraw]
      rfl

end RowEntry

namespace Decoder

variable {table : Table} {n k : Nat} {field : Field} {cells : List Value}

/-- The cells of a column of a table are stored in the way of its type. -/
lemma holds_of_isTable (htable : (table.batch n).IsTable) (hfield : (table n).1[k]? = some field)
    (hcells : (table n).2[k]? = some cells) :
    cells.length = (table.batch n).rowCount ∧ ∀ v ∈ cells, field.type.holds v = true :=
  (List.forall₂_iff_zip.mp htable).2
    (List.mem_of_getElem? (List.getElem?_zip_eq_some.mpr ⟨hfield, hcells⟩))

/-- **Timestamp columns are scaled exactly once.** Let a decoder be asked for a row in range of a
batch as it comes from the server, after any calls that have left the schema of the batch in force.
Let a column hold counts of some unit, in any zone, under any name and in any role but that of
floating-point fields. Unless reading the batch meets a cell of another column that is out of range,
which every shape then reports, an absent cell stays absent. A count comes out as the integer number
of its nanoseconds: at its place in the list, under its name in the dictionary, and in a row of a
time series as the timestamp if the column is the time column, otherwise as the field of its name if
it is a column of fields or has no role, and nowhere else. Of columns with one name, or for one
slot, the last counts. -/
theorem counts_run (htable : (table.batch n).IsTable) (hfield : (table n).1[k]? = some field)
    (hcells : (table n).2[k]? = some cells) {unit : Precision} {zone : Option String}
    (htype : field.type = .timestamp unit zone)
    (hfloat : (Column.ofField field).role ≠ some (.field (some .float))) {index : Int} {i : Nat}
    (hindex : position? (table.batch n).rowCount index = some i) (calls : List Call)
    (hown : (Memory.run table calls).kept ≠ some n ∨
      (Memory.run table calls).asked = some (table n).1) :
    (∃ fault, (table.batch n).OverflowsBeside k fault ∧
        ∀ shape, ((run table calls).decode shape (table.batch n) index).1.1 = .error fault) ∨
      ∃ front e back, front.length = k ∧ e.column = Column.ofField field ∧
        List.Forall₂ (RowEntry.Stands i) ((table n).1.zip (table n).2) (front ++ e :: back) ∧
        RowShape.Shows (fun shape => ((run table calls).decode shape (table.batch n) index).1.1)
          front e back ∧
        (cells[i]? = some .null ∧ e.value = .null ∧ e.slot? = none ∨
          ∃ count, cells[i]? = some (.int count) ∧ e.value = .int (count * unit.scale) ∧
            e.slot? = (Column.ofField field).instantSlot?) := by
  simp only [decode_run, Memory.inForce_own hown]
  obtain ⟨hlength, hholds⟩ := holds_of_isTable htable hfield hcells
  have hi : i < cells.length := hlength ▸ lt_of_position? hindex
  have hpair : ((table n).1.zip (table n).2)[k]? = some (field, cells) :=
    List.getElem?_zip_eq_some.mpr ⟨hfield, hcells⟩
  obtain ⟨before, behind, hcolumns, -, rfl⟩ := exists_beside hpair (field, cells)
  have hread := (Column.read_of_timestamp (c := Column.ofField field) htype cells).1
  rcases exists_entry htable hindex hcolumns hread with
    ⟨fault, hfault, hoverflow⟩ | ⟨front, e, back, hfront, hstand, hback, hrow⟩
  · refine .inl ⟨fault, hoverflow, fun shape => ?_⟩
    rw [rowUnder, hfault]
  · have hstands : List.Forall₂ (RowEntry.Stands i) ((table n).1.zip (table n).2)
        (front ++ e :: back) := by
      rw [hcolumns]
      exact List.rel_append hfront (.cons hstand hback)
    refine .inr ⟨front, e, back, hfront.length_eq.symm, hstand.column_eq, hstands, ?_,
      hstand.counts htype hfloat hholds hi⟩
    simp only [hrow]
    exact RowShape.shows_of_agree (agree_decode (RowEntry.isDecoded_of_stands hstands))

/-- Batches with two columns of instants, one of them the time column, and with a tag. -/
def arrivals : Table := fun _ =>
  ([⟨"time", .timestamp .milli none, []⟩,
    ⟨"seen", .timestamp .second (some "+02:00"), []⟩,
    ⟨"host", .text .plain, [(Column.roleKey, "iox::column_type::tag")]⟩],
   [[.int 5, .null], [.int 6, .int 7], [.text "a", .text "b"]])

/-- The last arrival was seen at seven seconds, which is a field. -/
theorem counts_arrivals :
    (arrivals.batch 0).IsTable ∧ position? (arrivals.batch 0).rowCount (-1) = some 1 ∧
      (Column.ofField ⟨"seen", .timestamp .second (some "+02:00"), []⟩).role ≠
        some (.field (some .float)) ∧
      (Memory.run arrivals [.columns []]).kept ≠ some 0 ∧
      ∃ front e back, front.length = 1 ∧
        RowShape.Shows (fun shape =>
          ((run arrivals [.columns []]).decode shape (arrivals.batch 0) (-1)).1.1) front e back ∧
        e.value = .int 7000000000 ∧ e.slot? = some (.field "seen") := by
  have htable : (arrivals.batch 0).IsTable := by decide
  have hindex : position? (arrivals.batch 0).rowCount (-1) = some 1 := rfl
  have hrole : (Column.ofField ⟨"seen", .timestamp .second (some "+02:00"), []⟩).role ≠
      some (.field (some .float)) := nofun
  have hkept : (Memory.run arrivals [.columns []]).kept ≠ some 0 := nofun
  refine ⟨htable, hindex, hrole, hkept, ?_⟩
  have hrow := counts_run (k := 1) htable rfl rfl rfl hrole hindex [.columns []] (.inl hkept)
  rcases hrow with ⟨fault, -, hfault⟩ | ⟨front, e, back, hfront, -, -, hshows, hcell⟩
  · nomatch hfault .list
  · rcases hcell with ⟨hnull, -⟩ | ⟨count, hcount, hvalue, hslot⟩
    · nomatch hnull
    · obtain rfl : 7 = count := by simpa using hcount
      exact ⟨front, e, back, hfront, hshows, hvalue, hslot⟩

/-- A batch with the time, and with a day after the year 9999. -/
def farArrivals : Table := fun _ =>
  ([⟨"time", .timestamp .milli none, []⟩, ⟨"day", .date false, []⟩], [[.int 5], [.int 2932897]])

/-- The time is lost with a day that is out of range. -/
theorem not_scaled_farArrivals :
    (farArrivals.batch 0).IsTable ∧ position? (farArrivals.batch 0).rowCount 0 = some 0 ∧
      ¬ ∃ vs, (new.decode .list (farArrivals.batch 0) 0).1.1 = .ok (.value (.list vs)) ∧
        vs[0]? = some (.int (5 * Precision.milli.scale)) := by
  have hfault : (new.decode .list (farArrivals.batch 0) 0).1.1 = .error (.range .date) := rfl
  refine ⟨by decide, rfl, ?_⟩
  rintro ⟨vs, hlist, -⟩
  rw [hfault] at hlist
  nomatch hlist

end Decoder

end SeriesClient
