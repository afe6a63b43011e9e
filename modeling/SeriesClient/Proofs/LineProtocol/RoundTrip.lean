import Mathlib.Data.List.ReduceOption
import SeriesClient.Proofs.LineProtocol.Line
import SeriesClient.Proofs.LineProtocol.Tags
import SeriesClient.Proofs.Number.Truncation
import SeriesClient.Proofs.Point.Consistency

set_option relaxedAutoImplicit false
set_option autoImplicit false

/-!
# What is written reads back

A batch of points is written as text, and the text is read as one record for each point that
has a field to be written, which says what the point says.

## Main definitions

* `SeriesClient.Value.IsName` — a name that a line can carry.
* `SeriesClient.Point.IsPlain` — a point whose names and values a line can carry.
* `SeriesClient.LineRecord.Describes` — a record says what a point says.

## Main results

* `SeriesClient.Point.exists_line` — a point is written as a line that is read as its record.
* `SeriesClient.Entry.read_encode` — a batch is written as a text that is read as its records.

## Design

A backslash in a name could be taken for the beginning of an escape, so names with one are
left out. Nothing is asked of the texts that are field values: they stand between quotes and
may hold anything.
-/

namespace SeriesClient

/-- A name that a line can carry: a text without a backslash. -/
def Value.IsName (v : Value) : Prop := ∃ s : String, v = .text s ∧ '\\' ∉ s.toList

/-- The unit of the timestamps that a setting names; one that counts as false leaves
nanoseconds. -/
def Precision.ofSetting (v : Value) : Except Fault Precision :=
  Precision.ofValue (if v.truthy then v else .precision .nano)

/-- Every entry of a map is made of names. -/
def OrderedMap.AreNames (m : OrderedMap Value Value) : Prop :=
  ∀ e ∈ m.entries, e.1.IsName ∧ e.2.IsName

namespace Point

/-- A point whose names a line can carry and whose fields have kinds. -/
structure IsPlain (p : Point) : Prop where
  /-- The measurement is a name. -/
  measurement : p.values.measurement.IsName
  /-- The tags are names. -/
  tags : p.values.tags.AreNames
  /-- The fields that are written have names. -/
  fieldName : ∀ e ∈ p.definedFields, e.1.IsName
  /-- The fields that are written have kinds. -/
  fieldKind : ∀ e ∈ p.definedFields, (p.values.kind? e.1).isSome
  /-- No field is a decimal that signals. -/
  notSignaling : ∀ e ∈ p.definedFields, ∀ negative payload,
    e.2 ≠ .decimal (.nan negative true payload)

/-- The value of a tag: that of the point, or else that of the defaults. -/
def effectiveTag? (p : Point) (defaults : OrderedMap Value Value) (k : Value) : Option Value :=
  (p.values.tags.find? k).or (defaults.find? k)

/-- A field of a point and a field of a record are the same: name, kind and value. -/
def FieldMatches (p : Point) (e : Value × Value) (field : String × FieldReading) : Prop :=
  e.1 = .text field.1 ∧ p.values.kind? e.1 = some field.2.kind ∧ field.2.Shows e.2

end Point

/-- A record says what a point says, with the timestamp in the given unit and with the given
defaults for the tags that the point does not set. -/
structure LineRecord.Describes (r : LineRecord) (unit : Precision)
    (defaults : OrderedMap Value Value) (p : Point) : Prop where
  /-- The measurements are the same. -/
  measurement : p.values.measurement = .text r.measurement
  /-- The tags are those of the point and the defaults, without the empty ones. -/
  tags : ∀ k v, (k, v) ∈ r.tags ↔
    k ≠ "" ∧ v ≠ "" ∧ p.effectiveTag? defaults (.text k) = some (.text v)
  /-- The tags are in strictly ascending order. -/
  ascending : r.tags.Pairwise fun a b => Value.lessText a.1.toList b.1.toList = true
  /-- The fields are those of the point that can be written, in their order. -/
  fields : List.Forall₂ p.FieldMatches p.definedFields r.fields
  /-- The timestamp is that of the point, cut off towards zero. -/
  timestamp : r.timestamp = p.values.timestamp.map (·.tdiv unit.scale)

/-! ## Timestamps -/

/-- A timestamp is written in the unit of the setting. -/
lemma Point.timestampText_eq_ok {precision : Value} {unit : Precision}
    (h : Precision.ofSetting precision = .ok unit) (t : Option Int) :
    timestampText precision t =
      .ok (LineReader.timestampText (t.map (·.tdiv unit.scale))) := by
  cases t with
  | none => rfl
  | some nanos =>
    have hunit : Precision.ofValue (if precision.truthy then precision else .precision .nano) =
        .ok unit := h
    have htrunc := truncDiv_eq_tdiv nanos unit.scale_pos
    simp only [timestampText, hunit, Timestamp.truncateTo, Option.map_some,
      LineReader.timestampText, ← htrunc]
    rfl

/-! ## Tags -/

namespace OrderedMap

/-- A map of names is a map between texts. -/
lemma AreNames.exists_ofTexts {m : OrderedMap Value Value} (h : m.AreNames) :
    ∃ n, m = ofTexts n := by
  refine OrderedMap.exists_ofTexts fun e he => ?_
  obtain ⟨⟨k, hk, -⟩, ⟨v, hv, -⟩⟩ := h e he
  exact ⟨k, v, Prod.ext hk hv⟩

/-- What is found in a map of names has no backslash. -/
lemma AreNames.no_backslash {n : OrderedMap String String} (h : (ofTexts n).AreNames)
    {k v : String} (hfind : n.find? k = some v) : '\\' ∉ k.toList ∧ '\\' ∉ v.toList := by
  have hmem : (Value.text k, Value.text v) ∈ (ofTexts n).entries :=
    List.mem_map_of_mem (mem_of_find? hfind)
  obtain ⟨⟨_, ⟨⟩, hk⟩, ⟨_, ⟨⟩, hv⟩⟩ := h _ hmem
  exact ⟨hk, hv⟩

end OrderedMap

namespace Point

/-- A tag is written if neither its key nor its value is empty. -/
lemma tagText_textEntry (tag : String × String) :
    tagText (textEntry tag) =
      .ok (if tag.1 ≠ "" ∧ tag.2 ≠ "" then LineReader.tagText tag else []) := by
  obtain ⟨k, v⟩ := tag
  by_cases hne : k ≠ "" ∧ v ≠ ""
  · simp [tagText, textEntry, Value.truthy, hne, LineReader.tagText, Value.plain,
      LineText.escapeValue, LineText.key]
  · have htruthy : ((Value.text k).truthy && (Value.text v).truthy) = false := by
      simp only [Value.truthy, Bool.and_eq_false_iff, Bool.not_eq_false', String.isEmpty_iff]
      tauto
    simp [tagText, textEntry, htruthy, hne]
    rfl

/-- The tags are written in the order of their keys. -/
lemma exists_tagTexts (n : OrderedMap String String) :
    ∃ entries texts, sortEntries (OrderedMap.ofTexts n).entries = .ok entries ∧
      entries.mapM tagText = .ok texts ∧
      texts.flatten = (ascendingTags n).flatMap LineReader.tagText := by
  have htext : tagText ∘ textEntry = fun tag =>
      Except.ok (if tag.1 ≠ "" ∧ tag.2 ≠ "" then LineReader.tagText tag else []) :=
    funext tagText_textEntry
  refine ⟨_, (n.entries.mergeSort keyLE).map fun tag =>
    if tag.1 ≠ "" ∧ tag.2 ≠ "" then LineReader.tagText tag else [],
    sortEntries_texts n.entries, ?_, ?_⟩
  · rw [List.mapM_map, htext]
    exact List.mapM_pure
  · rw [ascendingTags]
    induction n.entries.mergeSort keyLE with
    | nil => rfl
    | cons tag tags ih => by_cases hne : tag.1 ≠ "" ∧ tag.2 ≠ "" <;> simp [hne, ih]

/-! ## Fields -/

variable {p : Point}

/-- The kind that is kept for a field is that of its value. -/
lemma kind?_eq_infer? (hc : p.values.Consistent) {e : Value × Value}
    (hname : (e.1 == e.1) = true) (he : e ∈ p.definedFields) :
    p.values.kind? e.1 = FieldKind.infer? e.2 := by
  have hmem : (e.1, e.2) ∈ p.values.fields.entries := (List.mem_filter.1 he).1
  have hfind := OrderedMap.find?_of_mem hc.fields_distinct hname hmem
  rw [PointValues.kind?, hc.kinds_eq, OrderedMap.find?_mapValues, hfind]
  rfl

/-- **A field is written as a text that is read as the field.** -/
lemma exists_fieldText (hc : p.values.Consistent) (hp : p.IsPlain) {e : Value × Value}
    (he : e ∈ p.definedFields) :
    ∃ cs field, p.fieldText e = .ok cs ∧ p.FieldMatches e field ∧ LineReader.IsField cs field := by
  obtain ⟨name, hname, hb⟩ := hp.fieldName e he
  have hself : (e.1 == e.1) = true := by
    rw [hname, Value.same_text]
    exact beq_self_eq_true name
  have hkind := kind?_eq_infer? hc hself he
  obtain ⟨kind, hk⟩ := Option.isSome_iff_exists.1 (hp.fieldKind e he)
  obtain ⟨cs, r, hwrite, hshows, hrkind, hvalue⟩ :=
    LineReader.exists_isValue (hkind.symm.trans hk) (hp.notSignaling e he)
  refine ⟨_, (name, r), ?_, ⟨hname, ?_, hshows⟩, hvalue.isField hb⟩
  · rw [hname] at hk
    simp only [fieldText, hname, LineText.escapeValue]
    rw [hk, hwrite]
    rfl
  · rw [hk, hrkind]

/-! ## Points -/

/-- Whether a point has a field to be written. -/
def isWritten (p : Point) : Bool := !p.definedFields.isEmpty

section Settings

variable {precision defaults : Value} {unit : Precision} {m : OrderedMap Value Value}

/-- The record of the tags of a point and the defaults. -/
lemma exists_tags (hc : p.values.Consistent) (hp : p.IsPlain) (hm : m.DistinctKeys)
    (hnames : m.AreNames) :
    ∃ n, p.effectiveTags m = .ofTexts n ∧ n.DistinctKeys ∧
      (∀ k, p.effectiveTag? m (.text k) = (n.find? k).map .text) ∧
      ∀ tag ∈ ascendingTags n, '\\' ∉ tag.1.toList ∧ '\\' ∉ tag.2.toList := by
  obtain ⟨own, hown⟩ := hp.tags.exists_ofTexts
  obtain ⟨given, rfl⟩ := hnames.exists_ofTexts
  have hdown : own.DistinctKeys := by
    rw [← OrderedMap.distinctKeys_ofTexts, ← hown]
    exact hc.tags_distinct
  have hdgiven : given.DistinctKeys := (OrderedMap.distinctKeys_ofTexts given).1 hm
  have hpown : (OrderedMap.ofTexts own).AreNames := hown ▸ hp.tags
  have hfind := OrderedMap.find?_merge given own hdown
  refine ⟨given.merge own, ?_, OrderedMap.distinctKeys_merge hdgiven own, fun k => ?_, ?_⟩
  · rw [effectiveTags, hown, OrderedMap.merge_ofTexts]
  · rw [effectiveTag?, hown, OrderedMap.find?_ofTexts, OrderedMap.find?_ofTexts, hfind]
    cases own.find? k <;> rfl
  · intro tag htag
    obtain ⟨-, -, hv⟩ := (mem_ascendingTags (OrderedMap.distinctKeys_merge hdgiven own) _ _).1 htag
    rw [hfind, Option.or_eq_some_iff] at hv
    rcases hv with hv | ⟨-, hv⟩
    · exact hpown.no_backslash hv
    · exact hnames.no_backslash hv

/-- **A point that has a field to be written is written as a line that is read as its
record.**

**Proof sketch.** The line is made of the measurement, the tags in order (`exists_tagTexts`),
the fields (`exists_fieldText`) and the timestamp, each of which is read back. -/
theorem exists_line (hunit : Precision.ofSetting precision = .ok unit)
    (hdefaults : defaults.toMap = .ok m) (hm : m.DistinctKeys) (hnames : m.AreNames)
    (hc : p.values.Consistent) (hp : p.IsPlain) (hne : p.definedFields ≠ []) :
    ∃ cs r, p.line precision defaults = .ok cs ∧ r.Describes unit m p ∧
      LineReader.IsLine cs r := by
  obtain ⟨texts, fields, htexts, hmatch, hfields⟩ :=
    exists_mapM_eq_ok fun e he => exists_fieldText hc hp he
  obtain ⟨name, hname, hb⟩ := hp.measurement
  obtain ⟨n, hn, hdist, hfind, htags⟩ := exists_tags hc hp hm hnames
  obtain ⟨ks, tagTexts, hsort, htagTexts, hflat⟩ := exists_tagTexts n
  have htime := timestampText_eq_ok hunit p.values.timestamp
  have htextsne : texts ≠ [] := by
    rintro rfl
    cases hfields
    exact hne (List.forall₂_nil_right_iff.1 hmatch)
  refine ⟨_, ⟨name, ascendingTags n, fields, p.values.timestamp.map (·.tdiv unit.scale)⟩, ?_,
    ⟨hname, fun k v => ?_, pairwise_ascendingTags hdist, hmatch, rfl⟩,
    LineReader.isLine_of_isField _ hb htags hfields htextsne⟩
  · have hempty : texts.isEmpty = false := by simpa using htextsne
    simp only [line, htexts, hempty, hdefaults, hn, hname, hsort, htagTexts, htime, ← hflat,
      LineText.escapeValue, LineText.measurement, bind, Except.bind]
    rfl
  · rw [mem_ascendingTags hdist, hfind, Option.map_eq_some_iff]
    simp

end Settings

end Point

namespace Entry

/-! ## Batches -/

/-- A point that is to be written, or nothing in the place of one. -/
def ofPoint? : Option Point → Entry
  | some p => .point p
  | none => .raw .null

section Settings

variable {precision defaults : Value} {unit : Precision} {m : OrderedMap Value Value}

/-- An entry is written as a line that is read as its record; it has no line if there is no
point or no field to be written. -/
lemma exists_line (hunit : Precision.ofSetting precision = .ok unit)
    (hdefaults : defaults.toMap = .ok m) (hm : m.DistinctKeys) (hnames : m.AreNames)
    {o : Option Point} (ho : ∀ p, o = some p → p.values.Reachable ∧ p.IsPlain) :
    ∃ cs r?, line precision defaults (ofPoint? o) = .ok cs ∧
      Option.Rel (fun p r => r.Describes unit m p) (o.filter Point.isWritten) r? ∧
      Option.Rel LineReader.IsLine (Option.guard (fun l => !l.isEmpty) cs) r? := by
  cases o with
  | none => exact ⟨[], none, rfl, .none, .none⟩
  | some p =>
    obtain ⟨hreach, hp⟩ := ho p rfl
    by_cases hne : p.definedFields = []
    · have hempty : p.isWritten = false := by simp [Point.isWritten, hne]
      refine ⟨[], none, p.line_of_no_fields precision defaults hne, ?_, .none⟩
      rw [Option.filter_some, hempty]
      exact .none
    · obtain ⟨cs, r, hline, hr, hcs⟩ :=
        Point.exists_line hunit hdefaults hm hnames hreach.consistent hp hne
      have hwritten : p.isWritten = true := by simpa [Point.isWritten] using hne
      have hguard : Option.guard (fun l : List Char => !l.isEmpty) cs = some cs := by
        simpa using hcs.1
      refine ⟨cs, some r, hline, ?_, ?_⟩
      · rw [Option.filter_some, hwritten]
        exact .some hr
      · rw [hguard]
        exact .some hcs

/-- **What is written reads back.** The text of a batch of points, with nothing in the place of
some of them, is read as one record for each point that has a field to be written, in order,
and each record says what its point says.

**Proof sketch.** Every point is written as a line with its record or as no line
(`exists_line`); the lines that are left are read one below the other
(`LineReader.read_intercalate`). -/
theorem read_encode (hunit : Precision.ofSetting precision = .ok unit)
    (hdefaults : defaults.toMap = .ok m) (hm : m.DistinctKeys) (hnames : m.AreNames)
    (points : List (Option Point))
    (hpoints : ∀ p, some p ∈ points → p.values.Reachable ∧ p.IsPlain) :
    ∃ text records, encode precision defaults (points.map ofPoint?) = .ok text ∧
      LineReader.read text = some records ∧
      List.Forall₂ (fun p r => r.Describes unit m p)
        (points.reduceOption.filter Point.isWritten) records := by
  obtain ⟨lines, rs, hlines, hrecords, hread⟩ := exists_mapM_eq_ok fun o ho =>
    exists_line hunit hdefaults hm hnames fun p hp => hpoints p (hp ▸ ho)
  have hfilter : points.filterMap (·.filter Point.isWritten) =
      points.reduceOption.filter Point.isWritten := by
    rw [List.reduceOption, List.filter_filterMap]
    rfl
  refine ⟨List.intercalate ['\n'] (lines.filter fun l => !l.isEmpty), rs.reduceOption, ?_, ?_, ?_⟩
  · rw [encode, List.mapM_map]
    simp only [Function.comp_def, hlines]
    rfl
  · refine LineReader.read_intercalate ?_
    rw [← List.filterMap_eq_filter]
    exact List.rel_filterMap (fun _ _ h => h) hread
  · rw [← hfilter]
    exact List.rel_filterMap (fun _ _ h => h) hrecords

end Settings

/-- A row whose names and values hold delimiters. -/
def roomRow : PointValues :=
  [.setTag (.text "site, wing") (.text "a=b"), .setField (.text "note") (.text "say \"hi\""),
    .setField (.text "n") (.int 3), .setTimestamp (.int 1700) (.precision .milli)].foldl
    (fun pv call => (pv.run call).2) (.new (.text "room 1"))

/-- The names of the row can be carried by a line. -/
lemma isPlain_roomRow : Point.IsPlain ⟨roomRow⟩ := by
  have hfields : Point.definedFields ⟨roomRow⟩ =
      [(.text "note", .text "say \"hi\""), (.text "n", .int 3)] := rfl
  refine ⟨⟨"room 1", rfl, by decide⟩, ?_, ?_, ?_, ?_⟩
  · intro e he
    cases List.mem_singleton.1 he
    exact ⟨⟨_, rfl, by decide⟩, ⟨_, rfl, by decide⟩⟩
  all_goals
    rw [hfields]
    simp only [List.mem_cons, List.not_mem_nil, or_false, forall_eq_or_imp, forall_eq]
  · exact ⟨⟨_, rfl, by decide⟩, ⟨_, rfl, by decide⟩⟩
  · exact ⟨rfl, rfl⟩
  · exact ⟨nofun, nofun⟩

/-- A batch of a row with delimiters in it and of nothing reads back. -/
theorem read_encode_roomRow :
    ∃ text records,
      encode (.text "s") (.dict [(.text "host", .text "h")])
        ([some ⟨roomRow⟩, none].map ofPoint?) = .ok text ∧
      LineReader.read text = some records ∧
      List.Forall₂ (fun p r => r.Describes .second ⟨[(.text "host", .text "h")]⟩ p)
        ([some ⟨roomRow⟩, none].reduceOption.filter Point.isWritten) records := by
  refine read_encode (m := ⟨[(.text "host", .text "h")]⟩) rfl rfl ?_ ?_ [some ⟨roomRow⟩, none] ?_
  · exact List.pairwise_singleton _ _
  · intro e he
    cases List.mem_singleton.1 he
    exact ⟨⟨_, rfl, by decide⟩, ⟨_, rfl, by decide⟩⟩
  · intro p hp
    cases List.mem_cons.1 hp with
    | inl h =>
      cases h
      exact ⟨PointValues.Reachable.foldl (.new _) _, isPlain_roomRow⟩
    | inr h => cases List.mem_singleton.1 h

end Entry

end SeriesClient
