import Mathlib.Data.List.Sort
import SeriesClient.Proofs.LineProtocol.Anatomy
import SeriesClient.Proofs.LineProtocol.RoundTrip

set_option relaxedAutoImplicit false
set_option autoImplicit false

/-!
# The tags of a line are canonical

The tags of a point and the defaults for those that it does not set come to one list of tags,
whatever the order in which they were set, and whichever of the two a tag comes from. The list is
fixed by what it says: it is in strictly ascending order of the keys, and its members are the keys
with the values that count for them.

## Main definitions

* `SeriesClient.tagValue?` — the value that counts for a key.
* `SeriesClient.IsTagSection` — what the tags of a line are.
* `SeriesClient.SameByKey` — the same tags, set in another order.
* `SeriesClient.Point.lineWith` — the line with a given list of tags.

## Main results

* `SeriesClient.IsTagSection.eq` — there is only one list of tags.
* `SeriesClient.Point.exists_line_withTags` — a line has this list of tags.
* `SeriesClient.Point.line_canonical` — nothing else about the tags matters to a line.
-/

namespace SeriesClient

/-! ## Lists of tags -/

/-- The value that counts for a key: that of the point's own tags, also if it is empty, or else
that of the defaults. -/
def tagValue? (own given : OrderedMap String String) (k : String) : Option String :=
  (own.find? k).or (given.find? k)

/-- What the tags of a line are: the keys that are not empty, with the values that count for them
if these are not empty, in strictly ascending order of the keys. -/
structure IsTagSection (own given : OrderedMap String String) (tags : List (String × String)) :
    Prop where
  /-- Each key comes before the keys behind it. -/
  ascending : tags.Pairwise fun a b => Value.lessText a.1.toList b.1.toList = true
  /-- The members are the keys with the values that count. -/
  mem_iff : ∀ k v, (k, v) ∈ tags ↔ k ≠ "" ∧ v ≠ "" ∧ tagValue? own given k = some v

/-- Tags in strictly ascending order of their keys are the same if their members are. -/
lemma eq_of_ascending {tags tags' : List (String × String)}
    (h : tags.Pairwise fun a b => Value.lessText a.1.toList b.1.toList = true)
    (h' : tags'.Pairwise fun a b => Value.lessText a.1.toList b.1.toList = true)
    (hmem : ∀ tag, tag ∈ tags ↔ tag ∈ tags') : tags = tags' := by
  have hirrefl : Std.Irrefl fun a b : String × String =>
      Value.lessText a.1.toList b.1.toList = true :=
    ⟨fun a ha => by simp [Value.lessText_irrefl] at ha⟩
  have hantisymm : Std.Antisymm fun a b : String × String =>
      Value.lessText a.1.toList b.1.toList = true :=
    ⟨fun a b hab hba => absurd (Value.lessText_trans hab hba) (hirrefl.irrefl a)⟩
  exact h.eq_of_mem_iff h' hmem

namespace IsTagSection

variable {own own' given given' : OrderedMap String String} {tags tags' : List (String × String)}

/-- **There is only one list of tags** for the values that count. -/
theorem eq (h : IsTagSection own given tags) (h' : IsTagSection own' given' tags')
    (hvalue : ∀ k, tagValue? own given k = tagValue? own' given' k) : tags = tags' :=
  eq_of_ascending h.ascending h'.ascending fun ⟨k, v⟩ => by rw [h.mem_iff, h'.mem_iff, hvalue]

/-- The tags of the defaults with those of the point stored into them, in order. -/
lemma ascendingTags (hown : own.DistinctKeys) (hgiven : given.DistinctKeys) :
    IsTagSection own given (ascendingTags (given.merge own)) := by
  have hdistinct := OrderedMap.distinctKeys_merge hgiven own
  refine ⟨pairwise_ascendingTags hdistinct, fun k v => ?_⟩
  rw [mem_ascendingTags hdistinct, OrderedMap.find?_merge given own hown, tagValue?]

end IsTagSection

/-! ## Tags that are set in another order -/

/-- The same tags, set in another order, in which those of one key keep theirs. -/
def SameByKey (sets sets' : List (String × String)) : Prop :=
  ∀ k, (sets.filter fun e => e.1 == k) = sets'.filter fun e => e.1 == k

/-- Of tags with different keys, any order is another order. -/
lemma SameByKey.of_perm {sets sets' : List (String × String)} (h : sets.Perm sets')
    (hkeys : (sets.map Prod.fst).Nodup) : SameByKey sets sets' := by
  intro k
  -- At most one tag has the key.
  have hone : ∀ {l : List (String × String)}, (l.map Prod.fst).Nodup →
      (l.filter fun e => e.1 == k).Pairwise fun _ _ => False := fun hl =>
    ((List.pairwise_map.1 hl).filter _).imp_of_mem fun ha hb hne => hne <| by
      rw [eq_of_beq (List.mem_filter.1 ha).2, eq_of_beq (List.mem_filter.1 hb).2]
  exact List.Perm.eq_of_pairwise (fun _ _ _ _ h => h.elim) (hone hkeys)
    (hone ((h.map Prod.fst).nodup_iff.1 hkeys)) (h.filter _)

namespace Point

/-- A point with the given tags in the place of its own. -/
def withTags (p : Point) (own : OrderedMap String String) : Point :=
  ⟨{ p.values with tags := .ofTexts own }⟩

/-- A point after tags have been set one after the other. -/
def tagged (p : Point) (sets : List (String × String)) : Point :=
  ⟨sets.foldl (fun pv e => (pv.run (.setTag (.text e.1) (.text e.2))).2) p.values⟩

/-- A tag that is set is stored. -/
lemma run_setTag_withTags (p : Point) (own : OrderedMap String String) (k v : String) :
    ((p.withTags own).values.run (.setTag (.text k) (.text v))).2 =
      (p.withTags (own.insert k v)).values := by
  simp only [withTags, ← OrderedMap.insert_ofTexts]
  rfl

/-- Tags that are set one after the other are stored in this order. -/
lemma tagged_withTags (p : Point) (own : OrderedMap String String)
    (sets : List (String × String)) :
    (p.withTags own).tagged sets = p.withTags (own.insertAll sets) := by
  induction sets generalizing own with
  | nil => rfl
  | cons e rest ih =>
    have hstep : own.insertAll (e :: rest) = (own.insert e.1 e.2).insertAll rest := rfl
    rw [hstep, ← ih]
    simp only [tagged, List.foldl_cons, run_setTag_withTags]

/-! ## Lines -/

section Settings

variable {own own' given given' : OrderedMap String String} {precision defaults defaults' : Value}

/-- The line of a point with the given tags, in the given order, in the place of its own: the
measurement, the tags with a comma before each, a space, the fields with commas between them, and
the timestamp. -/
def lineWith (p : Point) (precision : Value) (tags : List (String × String)) :
    Except Fault (List Char) := do
  let fields ← p.definedFields.mapM p.fieldText
  let measurement ← LineText.escapeValue LineText.measurementChar p.values.measurement
  let closing ← timestampText precision p.values.timestamp
  return measurement ++ tags.flatMap LineReader.tagText ++
    ' ' :: List.intercalate [','] fields ++ closing

/-- What stands before the fields are the measurement and the tags in order. -/
lemma opening_withTags (p : Point) (own : OrderedMap String String)
    (hdefaults : defaults.toMap = .ok (.ofTexts given)) :
    (p.withTags own).opening defaults =
      (LineText.escapeValue LineText.measurementChar p.values.measurement).map
        fun measurement => measurement ++
          (SeriesClient.ascendingTags (given.merge own)).flatMap LineReader.tagText := by
  obtain ⟨ks, texts, hsort, htexts, hflat⟩ := exists_tagTexts (given.merge own)
  have htags : (p.withTags own).effectiveTags (.ofTexts given) = .ofTexts (given.merge own) :=
    OrderedMap.merge_ofTexts given own
  have hmeasurement : (p.withTags own).values.measurement = p.values.measurement := rfl
  simp only [opening, hdefaults, htags, hsort, htexts, ← hflat, hmeasurement, bind, Except.bind]
  cases LineText.escapeValue LineText.measurementChar p.values.measurement <;> rfl

/-- **A line has the tags** in order, between the measurement and the fields. -/
theorem exists_line_withTags (p : Point) (precision : Value) (hown : own.DistinctKeys)
    (hgiven : given.DistinctKeys) (hdefaults : defaults.toMap = .ok (.ofTexts given))
    (hfields : p.definedFields ≠ []) :
    ∃ tags, IsTagSection own given tags ∧
      (p.withTags own).line precision defaults = p.lineWith precision tags := by
  refine ⟨_, .ascendingTags hown hgiven, ?_⟩
  unfold lineWith
  rw [(p.withTags own).line_eq precision defaults hfields, opening_withTags p own hdefaults]
  cases LineText.escapeValue LineText.measurementChar p.values.measurement <;> rfl

/-- Points that differ in their tags only have the same line if the same values count. -/
lemma line_withTags_congr (p : Point) (precision : Value)
    (hown : own.DistinctKeys) (hown' : own'.DistinctKeys)
    (hgiven : given.DistinctKeys) (hgiven' : given'.DistinctKeys)
    (hdefaults : defaults.toMap = .ok (.ofTexts given))
    (hdefaults' : defaults'.toMap = .ok (.ofTexts given')) (hfields : p.definedFields ≠ [])
    (hvalue : ∀ k, tagValue? own' given' k = tagValue? own given k) :
    (p.withTags own').line precision defaults' = (p.withTags own).line precision defaults := by
  obtain ⟨tags, htags, hline⟩ := p.exists_line_withTags precision hown hgiven hdefaults hfields
  obtain ⟨tags', htags', hline'⟩ :=
    p.exists_line_withTags precision hown' hgiven' hdefaults' hfields
  rw [hline, hline', htags'.eq htags hvalue]

/-- **The tags of a line are canonical.** A line has the keys that are not empty with the values
that count for them if these are not empty, in strictly ascending order of the keys. It stays as
it is if the tags of the point are set in another order, if the defaults come in another order,
and if a default that the point does not set is set on the point instead.

**Proof sketch.** None of the three changes the values that count (`line_withTags_congr`). -/
theorem line_canonical (p : Point) (precision : Value) (hown : own.DistinctKeys)
    (hgiven : given.DistinctKeys) (hdefaults : defaults.toMap = .ok (.ofTexts given))
    (hfields : p.definedFields ≠ []) :
    (∃ tags, IsTagSection own given tags ∧
      (p.withTags own).line precision defaults = p.lineWith precision tags) ∧
    (∀ sets sets', OrderedMap.ofList sets = own → SameByKey sets sets' →
      ((p.withTags .empty).tagged sets').line precision defaults =
        (p.withTags own).line precision defaults) ∧
    (∀ given' defaults', given'.entries.Perm given.entries →
      defaults'.toMap = .ok (.ofTexts given') →
      (p.withTags own).line precision defaults' = (p.withTags own).line precision defaults) ∧
    ∀ k v defaults', given.find? k = some v → own.find? k = none →
      defaults'.toMap = .ok (.ofTexts (given.erase k)) →
      ((p.withTags own).tagged [(k, v)]).line precision defaults' =
        (p.withTags own).line precision defaults := by
  refine ⟨p.exists_line_withTags precision hown hgiven hdefaults hfields, ?_, ?_, ?_⟩
  · rintro sets sets' rfl hsame
    have hsets' : (OrderedMap.ofList sets').DistinctKeys :=
      OrderedMap.distinctKeys_insertAll OrderedMap.distinctKeys_empty sets'
    rw [tagged_withTags]
    refine p.line_withTags_congr precision hown hsets' hgiven hgiven hdefaults hdefaults hfields
      fun k => ?_
    rw [tagValue?, tagValue?, OrderedMap.ofList, OrderedMap.find?_insertAll_eq_getLast?,
      OrderedMap.find?_insertAll_eq_getLast?, hsame k]
  · intro given' defaults' hperm hdefaults'
    obtain ⟨hgiven', hfind⟩ := OrderedMap.find?_eq_of_perm hperm hgiven
    refine p.line_withTags_congr precision hown hown hgiven hgiven' hdefaults hdefaults' hfields
      fun k => ?_
    rw [tagValue?, tagValue?, hfind]
  · intro k v defaults' hgivenk hownk hdefaults'
    rw [tagged_withTags]
    refine p.line_withTags_congr precision hown (OrderedMap.distinctKeys_insert hown k v) hgiven
      (OrderedMap.distinctKeys_erase hgiven k) hdefaults hdefaults' hfields fun l => ?_
    have hinsert : (own.insertAll [(k, v)]).find? l = if k == l then some v else own.find? l :=
      OrderedMap.find?_insert own k l v
    rw [tagValue?, tagValue?, hinsert, OrderedMap.find?_erase]
    by_cases hk : k = l
    · subst hk
      simp [hgivenk, hownk]
    · simp [hk]

end Settings

/-- A point without tags. -/
def meter : Point := ⟨((PointValues.new (.text "power")).run (.setField (.text "w") (.int 7))).2⟩

/-- Tags of which two are not written: one has no key, and one hides a default. -/
def meterTags : List (String × String) := [("room", "r"), ("building", ""), ("", "x"), ("id", "1")]

/-- Defaults of which the point sets one itself. -/
def siteDefaults : OrderedMap String String := ⟨[("site", "s"), ("building", "b")]⟩

/-- The tags of a point are set the other way round, and a default is set on the point. -/
theorem line_canonical_meter :
    (OrderedMap.ofList meterTags).DistinctKeys ∧ siteDefaults.DistinctKeys ∧
    meter.definedFields ≠ [] ∧
    ((meter.withTags .empty).tagged meterTags.reverse).line .null
        (.dict (OrderedMap.ofTexts siteDefaults).entries) =
      (meter.withTags (.ofList meterTags)).line .null
        (.dict (OrderedMap.ofTexts siteDefaults).entries) ∧
    ((meter.withTags (.ofList meterTags)).tagged [("site", "s")]).line .null
        (.dict [(.text "building", .text "b")]) =
      (meter.withTags (.ofList meterTags)).line .null
        (.dict (OrderedMap.ofTexts siteDefaults).entries) := by
  have hown : (OrderedMap.ofList meterTags).DistinctKeys :=
    (OrderedMap.distinctKeys_iff_nodup _).2 (by decide)
  have hgiven : siteDefaults.DistinctKeys :=
    (OrderedMap.distinctKeys_iff_nodup _).2 (by decide)
  have hfields : meter.definedFields ≠ [] := List.cons_ne_nil _ _
  have hdefaults : (Value.dict (OrderedMap.ofTexts siteDefaults).entries).toMap =
      .ok (.ofTexts siteDefaults) := rfl
  obtain ⟨-, hsets, -, hmoved⟩ := meter.line_canonical .null hown hgiven hdefaults hfields
  refine ⟨hown, hgiven, hfields, hsets _ _ rfl (.of_perm ?_ (by decide)), hmoved _ _ _ ?_ ?_ rfl⟩
  · exact (List.reverse_perm meterTags).symm
  · decide
  · decide

end Point

end SeriesClient
