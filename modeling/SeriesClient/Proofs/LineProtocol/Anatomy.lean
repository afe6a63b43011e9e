import SeriesClient.Point.LineProtocol
import SeriesClient.Proofs.Result

set_option relaxedAutoImplicit false
set_option autoImplicit false

/-!
# The parts of a line

A line consists of what stands before the fields, a space, the fields with commas between them,
and the timestamp. Each part is there or not for reasons of its own, and a line can be written
if all of its parts can.

## Main definitions

* `SeriesClient.Point.opening` — what stands before the fields.
* `SeriesClient.Entry.IsBlank` — an entry has no line.

## Main results

* `SeriesClient.Point.line_eq` — a line is made of its parts.
* `SeriesClient.Point.cases_of_line_eq_error` — why a line cannot be written.
* `SeriesClient.Entry.line_eq_nil_iff` — which lines are empty.
-/

namespace SeriesClient

/-- No entries are in order. -/
lemma sortEntries_nil : sortEntries [] = .ok [] := by
  simp [sortEntries, unorderedPair?]

namespace Point

/-! ## Parts -/

section Parts

variable (p : Point) (precision defaults : Value)

/-- What stands before the fields of a line: the measurement and the tags. -/
def opening : Except Fault (List Char) := do
  let tags := p.effectiveTags (← defaults.toMap)
  let measurement ← LineText.escapeValue LineText.measurementChar p.values.measurement
  let tagTexts ← (← sortEntries tags.entries).mapM tagText
  return measurement ++ tagTexts.flatten

/-- **A line is made of its parts**, if there is a field to be written. -/
theorem line_eq (h : p.definedFields ≠ []) : p.line precision defaults = do
    let fields ← p.definedFields.mapM p.fieldText
    let opening ← p.opening defaults
    let closing ← timestampText precision p.values.timestamp
    return opening ++ ' ' :: List.intercalate [','] fields ++ closing := by
  unfold line opening
  rcases hfields : p.definedFields.mapM p.fieldText with fault | fields
  · rfl
  · have hlength := (forall₂_of_mapM_eq_ok (P := fun _ _ => True) (fun _ _ _ _ => trivial)
      hfields).length_eq
    have hne : fields.isEmpty = false := by
      rw [List.isEmpty_eq_false_iff, ← List.length_pos_iff, ← hlength, List.length_pos_iff]
      exact h
    have hok : ∀ {β : Type} (f : List (List Char) → Except Fault β),
        Except.ok fields >>= f = f fields := fun _ => rfl
    simp only [hok, hne, Bool.false_eq_true, if_false, bind_assoc, pure_bind]

/-- A line that cannot be written lacks one of its parts. -/
theorem cases_of_line_eq_error {fault : Fault} (h : p.line precision defaults = .error fault) :
    (∃ e ∈ p.definedFields, p.fieldText e = .error fault) ∨ p.opening defaults = .error fault ∨
      timestampText precision p.values.timestamp = .error fault := by
  by_cases hne : p.definedFields = []
  · rw [p.line_of_no_fields precision defaults hne] at h
    cases h
  · rw [p.line_eq precision defaults hne] at h
    rcases cases_of_bind_eq_error h with hfields | ⟨fields, -, hopening⟩
    · exact .inl (exists_of_mapM_eq_error hfields)
    rcases cases_of_bind_eq_error hopening with hopening | ⟨opening, -, hclosing⟩
    · exact .inr (.inl hopening)
    rcases cases_of_bind_eq_error hclosing with hclosing | ⟨closing, -, hnone⟩
    · exact .inr (.inr hclosing)
    · cases hnone

/-- Without tags there is only the measurement before the fields. -/
lemma opening_of_no_tags {p : Point} (hp : p.values.tags = .empty) :
    p.opening .null = LineText.escapeValue LineText.measurementChar p.values.measurement := by
  have hsort : sortEntries (p.effectiveTags .empty).entries = .ok [] := by
    rw [effectiveTags, hp]
    exact sortEntries_nil
  have hdefaults : Value.null.toMap = .ok .empty := rfl
  simp only [opening, hdefaults, bind, Except.bind, hsort]
  cases LineText.escapeValue LineText.measurementChar p.values.measurement with
  | error fault => rfl
  | ok name => exact congrArg Except.ok (List.append_nil name)

end Parts

/-! ## Empty lines -/

/-- A point with a field that can be written has a line, with any tags and timestamp. -/
lemma line_eq_nil_iff {p : Point} {precision defaults : Value} {line : List Char}
    (h : p.line precision defaults = .ok line) : line = [] ↔ p.definedFields = [] := by
  by_cases hne : p.definedFields = []
  · rw [p.line_of_no_fields _ _ hne] at h
    exact iff_of_true (Except.ok.inj h).symm hne
  · -- There is a space before the fields.
    rw [p.line_eq _ _ hne] at h
    obtain ⟨fields, -, h⟩ := bind_eq_ok_iff.1 h
    obtain ⟨opening, -, h⟩ := bind_eq_ok_iff.1 h
    obtain ⟨closing, -, h⟩ := bind_eq_ok_iff.1 h
    obtain rfl := Except.ok.inj h
    exact iff_of_false (by simp) hne

end Point

namespace Entry

/-- An entry has no line: it is a point or a row without a field that can be written, it is absent,
or its plain text is empty. -/
def IsBlank : Entry → Prop
  | point p => p.definedFields = []
  | values pv => (Point.mk pv).definedFields = []
  | raw .null => True
  | raw v => v.plain = []

/-- **Which lines are empty** is a matter of the entry alone, whatever the unit and the default
tags. -/
theorem line_eq_nil_iff {e : Entry} {precision defaults : Value} {line : List Char}
    (h : e.line precision defaults = .ok line) : line = [] ↔ e.IsBlank := by
  cases e with
  | point p => exact Point.line_eq_nil_iff h
  | values pv =>
    obtain ⟨p, hp, h⟩ := bind_eq_ok_iff.1 h
    unfold Point.ofValues at hp
    split at hp
    · cases hp
    · obtain rfl := Except.ok.inj hp
      exact Point.line_eq_nil_iff h
  | raw v =>
    cases v with
    | null => exact iff_of_true (Except.ok.inj h).symm trivial
    | _ =>
      obtain rfl := Except.ok.inj h
      exact Iff.rfl

end Entry

end SeriesClient
