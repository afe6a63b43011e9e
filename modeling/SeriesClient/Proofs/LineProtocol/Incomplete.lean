import Mathlib.Data.List.Forall2
import SeriesClient.Proofs.LineProtocol.Anatomy
import SeriesClient.Proofs.WriteQueue.Splitting

set_option relaxedAutoImplicit false
set_option autoImplicit false

/-!
# Incomplete entries

A batch has entries of many kinds, and not all of them have what a line needs. An entry without a
field that can be written is left out, and the others are written as if it were not there. A row
without a measurement is not left out: it is an obstacle to the whole batch, wherever it stands.

## Main definitions

* `SeriesClient.Entry.IsFormattable` — the fields and tags of an entry can be written.
* `SeriesClient.Entry.obstacle?` — what else may keep an entry from being written.

## Main results

* `SeriesClient.Entry.errorOf?_line` — an entry cannot be written if there is an obstacle.
* `SeriesClient.Entry.encode_eq_of_isBlank` — an entry without a line may as well not be there.
* `SeriesClient.Entry.encode_of_isFormattable` — what entries with and without lines come to.
-/

namespace SeriesClient

namespace Point

/-- The fields of a point can be written, and so can its tags together with the defaults. -/
structure IsFormattable (p : Point) (defaults : Value) : Prop where
  /-- Each field has a text. -/
  fields : ∀ e ∈ p.definedFields, ∃ text, p.fieldText e = .ok text
  /-- The tags can be put in order, and each has a text. -/
  tags : ∃ m entries, defaults.toMap = .ok m ∧
    sortEntries (p.effectiveTags m).entries = .ok entries ∧
    ∀ e ∈ entries, ∃ text, tagText e = .ok text

/-- Without tags there are only the fields to be written. -/
lemma IsFormattable.of_no_tags {p : Point} (hp : p.values.tags = .empty)
    (hfields : ∀ e ∈ p.definedFields, ∃ text, p.fieldText e = .ok text) :
    p.IsFormattable .null := by
  refine ⟨hfields, .empty, [], rfl, ?_, fun e he => absurd he List.not_mem_nil⟩
  rw [effectiveTags, hp]
  exact sortEntries_nil

/-- What may keep a point from being written besides its fields and tags: a measurement that is
no text, or a timestamp in a unit that is none. Nothing does if there is no field to be written. -/
def obstacle? (p : Point) (precision : Value) : Option Fault :=
  if p.definedFields = [] then none
  else (errorOf? (LineText.escapeValue LineText.measurementChar p.values.measurement)).or
    (errorOf? (timestampText precision p.values.timestamp))

/-- A point whose fields and tags can be written is written, if there is no obstacle. -/
lemma errorOf?_line {p : Point} {defaults : Value} (h : p.IsFormattable defaults)
    (precision : Value) : errorOf? (p.line precision defaults) = p.obstacle? precision := by
  unfold obstacle?
  split
  · next hempty =>
    rw [p.line_of_no_fields precision defaults hempty]
    rfl
  · next hne =>
    obtain ⟨m, entries, hdefaults, hsort, htags⟩ := h.tags
    obtain ⟨fields, hfields⟩ := exists_mapM h.fields
    obtain ⟨texts, htexts⟩ := exists_mapM htags
    rw [p.line_eq precision defaults hne, opening, hfields, hdefaults]
    simp only [bind, Except.bind, hsort, htexts]
    rcases LineText.escapeValue LineText.measurementChar p.values.measurement with fault | name
    · rfl
    · rcases timestampText precision p.values.timestamp with fault | closing <;> rfl

end Point

namespace Entry

/-- The fields and tags of an entry can be written, if it has any. -/
def IsFormattable (defaults : Value) : Entry → Prop
  | point p => p.IsFormattable defaults
  | values pv => (Point.mk pv).IsFormattable defaults
  | raw _ => True

/-- What may keep an entry from being written besides its fields and tags. For a row it is that
it has no measurement, and otherwise what it is for a point. -/
def obstacle? (precision : Value) : Entry → Option Fault
  | point p => p.obstacle? precision
  | values pv =>
    if pv.measurement.isNull then some (.invalid .measurementMissing)
    else (Point.mk pv).obstacle? precision
  | raw _ => none

variable {e : Entry} {precision defaults : Value} {entries : List Entry}

/-- **An entry whose fields and tags can be written is written, if there is no obstacle.** -/
theorem errorOf?_line (h : e.IsFormattable defaults) :
    errorOf? (e.line precision defaults) = e.obstacle? precision := by
  cases e with
  | point p => exact Point.errorOf?_line h precision
  | values pv =>
    simp only [line, Point.ofValues, obstacle?]
    split
    · rfl
    · exact Point.errorOf?_line h precision
  | raw v => cases v <;> rfl

/-- An entry without a line has an empty one, if there is no obstacle. -/
lemma line_of_isBlank (hblank : e.IsBlank) (h : e.obstacle? precision = none) :
    e.line precision defaults = .ok [] := by
  cases e with
  | point p => exact p.line_of_no_fields precision defaults hblank
  | values pv =>
    simp only [line, Point.ofValues, obstacle?] at h ⊢
    split at h
    · cases h
    · next hnull =>
      rw [if_neg hnull]
      exact (Point.mk pv).line_of_no_fields precision defaults hblank
  | raw v =>
    cases v with
    | null => rfl
    | _ => exact congrArg _ hblank

/-- **An entry without a line may as well not be there**, if there is no obstacle: what the others
come to, or that they cannot be written, is the same. -/
theorem encode_eq_of_isBlank (hblank : e.IsBlank) (h : e.obstacle? precision = none)
    (above below : List Entry) :
    encode precision defaults (above ++ e :: below) =
      encode precision defaults (above ++ below) := by
  have hempty : encode precision defaults (e :: below) = encode precision defaults below := by
    rw [encode_eq, encode_eq, List.mapM_cons, line_of_isBlank hblank h]
    rcases below.mapM (line precision defaults) with fault | lines <;> rfl
  rw [encode_append, encode_append, hempty]

instance : DecidablePred IsBlank
  | point p => inferInstanceAs (Decidable (p.definedFields = []))
  | values pv => inferInstanceAs (Decidable ((Point.mk pv).definedFields = []))
  | raw v => decidable_of_iff (v.isNull = true ∨ v.plain = []) (by
      cases v <;> simp [IsBlank, Value.isNull])

/-- The text of a batch are the lines of the entries that have one, in order. -/
lemma exists_lines_of_encode {text : List Char}
    (h : encode precision defaults entries = .ok text) :
    ∃ lines, text = List.intercalate ['\n'] lines ∧
      List.Forall₂ (fun e line => e.line precision defaults = .ok line ∧ line ≠ [])
        (entries.filter fun e => ¬ e.IsBlank) lines := by
  obtain ⟨lines, hlines, htext⟩ := bind_eq_ok_iff.1 h
  refine ⟨_, (Except.ok.inj htext).symm, ?_⟩
  have hall : List.Forall₂ (fun e l => e.line precision defaults = .ok l ∧ (l = [] ↔ e.IsBlank))
      entries lines :=
    forall₂_of_mapM_eq_ok (fun _ _ _ hline => ⟨hline, line_eq_nil_iff hline⟩) hlines
  clear h hlines htext
  induction hall with
  | nil => exact .nil
  | @cons e l entries lines hline _ ih =>
    by_cases hl : l = []
    · have hblank := hline.2.1 hl
      simpa [hl, hblank] using ih
    · have hblank := mt hline.2.2 hl
      simpa [hl, hblank, hline.1] using ih

/-- **What entries with and without lines come to.** If the fields and tags of each entry can be
written, then a batch cannot be written for the first obstacle, and without one it is the lines of
the entries that have one, in order; an entry that has none, and that is no obstacle, may as well
not be there. -/
theorem encode_of_isFormattable (h : ∀ e ∈ entries, e.IsFormattable defaults)
    (precision : Value) :
    errorOf? (encode precision defaults entries) = entries.findSome? (obstacle? precision) ∧
    (∀ text, encode precision defaults entries = .ok text →
      ∃ lines, text = List.intercalate ['\n'] lines ∧
        List.Forall₂ (fun e line => e.line precision defaults = .ok line ∧ line ≠ [])
          (entries.filter fun e => ¬ e.IsBlank) lines) ∧
    ∀ above e below, entries = above ++ e :: below → e.IsBlank → e.obstacle? precision = none →
      encode precision defaults entries = encode precision defaults (above ++ below) := by
  refine ⟨?_, fun _ => exists_lines_of_encode, ?_⟩
  · have hmap : errorOf? (encode precision defaults entries) =
        errorOf? (entries.mapM (line precision defaults)) := by
      rw [encode_eq]
      rcases entries.mapM (line precision defaults) with fault | lines <;> rfl
    rw [hmap, errorOf?_mapM]
    clear hmap
    induction entries with
    | nil => rfl
    | cons e entries ih =>
      obtain ⟨he, hrest⟩ := List.forall_mem_cons.1 h
      rw [List.findSome?_cons, List.findSome?_cons, errorOf?_line he, ih hrest]
  · rintro above e below rfl hblank hnone
    exact encode_eq_of_isBlank hblank hnone above below

/-- A row with a field and without a measurement. -/
def unnamedRow : PointValues := ((PointValues.new .null).run (.setField (.text "v") (.int 2))).2

/-- A text, a point without fields, nothing, and a row without a measurement. -/
def mixedBatch : List Entry :=
  [.raw (.text "a v=1i"), .point ⟨.new (.text "b")⟩, .raw .null, .values unnamedRow]

/-- The fields and tags of the batch can be written. -/
lemma isFormattable_mixedBatch : ∀ e ∈ mixedBatch, e.IsFormattable .null := by
  have hnone : (Point.mk (.new (.text "b"))).definedFields = [] := rfl
  have hone : (Point.mk unnamedRow).definedFields = [(.text "v", .int 2)] := rfl
  simp only [mixedBatch, List.forall_mem_cons, List.not_mem_nil, false_imp_iff, implies_true,
    and_true]
  refine ⟨trivial, .of_no_tags rfl fun e he => ?_, trivial, .of_no_tags rfl fun e he => ?_⟩
  · rw [hnone] at he
    exact absurd he List.not_mem_nil
  · rw [hone] at he
    obtain rfl := List.mem_singleton.1 he
    exact ⟨_, rfl⟩

/-- The row without a measurement is the first obstacle to the batch. -/
theorem encode_of_isFormattable_mixedBatch :
    (∀ e ∈ mixedBatch, e.IsFormattable .null) ∧
      errorOf? (encode .null .null mixedBatch) = some (.invalid .measurementMissing) :=
  ⟨isFormattable_mixedBatch,
    (encode_of_isFormattable isFormattable_mixedBatch .null).1.trans rfl⟩

/-- The row without a measurement is not left out, although the batch can be written without
it. -/
theorem not_skipped_unnamedRow :
    (∀ e ∈ mixedBatch, e.IsFormattable .null) ∧
      encode .null .null mixedBatch = .error (.invalid .measurementMissing) ∧
      encode .null .null (mixedBatch.take 3) = .ok "a v=1i".toList :=
  ⟨isFormattable_mixedBatch, rfl, rfl⟩

end Entry

end SeriesClient
