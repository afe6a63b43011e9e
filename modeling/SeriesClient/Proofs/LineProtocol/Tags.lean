import SeriesClient.Point.LineProtocol
import SeriesClient.Proofs.OrderedMap
import SeriesClient.Proofs.Result

set_option relaxedAutoImplicit false
set_option autoImplicit false

/-!
# The order of tags

The keys of tags are put in ascending order, and each key stands with the value that counts for
it: that of the point, or else that of the defaults.

## Main definitions

* `SeriesClient.OrderedMap.ofTexts` — a map between texts as a map between values.
* `SeriesClient.ascendingTags` — the tags that are written, in order.

## Main results

* `SeriesClient.sortEntries_texts` — texts can always be put in order.
* `SeriesClient.pairwise_ascendingTags` — the tags stand in strictly ascending order.
* `SeriesClient.mem_ascendingTags` — the tags are the look-ups with a key and value that are not
  empty.
-/

namespace SeriesClient

/-! ## The order of texts -/

namespace Value

/-- No text comes before itself. -/
lemma lessText_irrefl (as : List Char) : lessText as as = false := by
  induction as with
  | nil => rfl
  | cons a as ih => simp [lessText, ih]

/-- Of two different texts one comes before the other. -/
lemma lessText_connex {as bs : List Char} (h₁ : lessText as bs = false)
    (h₂ : lessText bs as = false) : as = bs := by
  induction as generalizing bs with
  | nil =>
    cases bs with
    | nil => rfl
    | cons b bs => simp [lessText] at h₁
  | cons a as ih =>
    cases bs with
    | nil => simp [lessText] at h₂
    | cons b bs =>
      by_cases hab : a = b
      · subst hab
        simp only [lessText, if_true] at h₁ h₂
        rw [ih h₁ h₂]
      · simp only [lessText, hab, Ne.symm hab, if_false, decide_eq_false_iff_not] at h₁ h₂
        exact absurd (Char.toNat_inj.1 (by omega)) hab

/-- The order of texts is transitive. -/
lemma lessText_trans {as bs cs : List Char} (h₁ : lessText as bs = true)
    (h₂ : lessText bs cs = true) : lessText as cs = true := by
  induction as generalizing bs cs with
  | nil =>
    cases cs with
    | nil => cases bs <;> simp [lessText] at h₂
    | cons c cs => rfl
  | cons a as ih =>
    cases bs with
    | nil => simp [lessText] at h₁
    | cons b bs =>
      cases cs with
      | nil => simp [lessText] at h₂
      | cons c cs =>
        simp only [lessText] at h₁ h₂ ⊢
        split at h₁ <;> split at h₂ <;> rename_i hab hbc
        · rw [if_pos (hab.trans hbc)]
          exact ih h₁ h₂
        · rw [if_neg (hab ▸ hbc), hab]
          exact h₂
        · rw [if_neg (hbc ▸ hab), ← hbc]
          exact h₁
        · simp only [decide_eq_true_eq] at h₁ h₂
          have hne : a ≠ c := by
            rintro rfl
            omega
          rw [if_neg hne, decide_eq_true_eq]
          omega

/-- Whether a text comes before another one or is the same. -/
def textLE (s t : String) : Bool := !lessText t.toList s.toList

/-- The order of texts with equality is transitive. -/
lemma textLE_trans (s t u : String) (h₁ : textLE s t = true) (h₂ : textLE t u = true) :
    textLE s u = true := by
  simp only [textLE, Bool.not_eq_true'] at h₁ h₂ ⊢
  by_contra hlt
  simp only [Bool.not_eq_false] at hlt
  rcases hst : lessText s.toList t.toList with _ | _
  · rw [lessText_connex hst h₁] at hlt
    simp [hlt] at h₂
  · simp [lessText_trans hlt hst] at h₂

/-- Any two texts are in order one way or the other. -/
lemma textLE_total (s t : String) : (textLE s t || textLE t s) = true := by
  rcases h : lessText t.toList s.toList with _ | _
  · simp [textLE, h]
  · rcases h' : lessText s.toList t.toList with _ | _
    · simp [textLE, h']
    · simpa [lessText_irrefl] using lessText_trans h h'

/-- A text that is not the same as one that it does not come after comes before it. -/
lemma lessText_of_textLE {s t : String} (h : textLE s t = true) (hne : s ≠ t) :
    lessText s.toList t.toList = true := by
  simp only [textLE, Bool.not_eq_true'] at h
  by_contra hlt
  simp only [Bool.not_eq_true] at hlt
  exact hne (String.toList_inj.1 (lessText_connex hlt h))

end Value

/-! ## Keys in order -/

/-- Texts always have an order. -/
lemma unorderedPair?_texts (ks : List String) : unorderedPair? (ks.map .text) = none := by
  induction ks with
  | nil => rfl
  | cons k ks ih =>
    cases ks with
    | nil => rfl
    | cons k' ks => simpa [unorderedPair?, Value.less?] using ih

/-- Two texts as two values. -/
def textEntry (tag : String × String) : Value × Value := (.text tag.1, .text tag.2)

/-- Whether the key of a tag comes before that of another one or is the same. -/
def keyLE (a b : String × String) : Bool := Value.textLE a.1 b.1

/-- **Texts can always be put in order.** -/
theorem sortEntries_texts (tags : List (String × String)) :
    sortEntries (tags.map textEntry) = .ok ((tags.mergeSort keyLE).map textEntry) := by
  have hkeys : (tags.map textEntry).map Prod.fst = (tags.map Prod.fst).map .text := by
    simp [textEntry]
  have hsort : (tags.mergeSort keyLE).map textEntry =
      (tags.map textEntry).mergeSort fun a b => !((b.1.less? a.1).getD false) :=
    List.map_mergeSort fun a _ b _ => by simp [keyLE, textEntry, Value.textLE, Value.less?]
  simp only [sortEntries, hkeys, unorderedPair?_texts, hsort]

/-- Two tags that are in order stay as they are. -/
lemma sortEntries_pair {a b : String × String} (h : keyLE a b = true) :
    sortEntries [textEntry a, textEntry b] = .ok [textEntry a, textEntry b] := by
  have hsort := sortEntries_texts [a, b]
  rw [List.mergeSort_of_pairwise (by simpa using h)] at hsort
  exact hsort

/-- Tags with different keys in order are in strictly ascending order. -/
lemma pairwise_mergeSort_tags {tags : List (String × String)} (h : (tags.map Prod.fst).Nodup) :
    (tags.mergeSort keyLE).Pairwise fun a b => Value.lessText a.1.toList b.1.toList = true := by
  have hle : (tags.mergeSort keyLE).Pairwise fun a b => keyLE a b = true :=
    List.pairwise_mergeSort (fun a b c => Value.textLE_trans a.1 b.1 c.1)
      (fun a b => Value.textLE_total a.1 b.1) tags
  have hne : (tags.mergeSort keyLE).Pairwise fun a b => a.1 ≠ b.1 :=
    List.pairwise_map.1 (((List.mergeSort_perm tags keyLE).map Prod.fst).nodup_iff.2 h)
  exact List.Pairwise.imp₂ (fun _ _ => Value.lessText_of_textLE) hle hne

/-! ## Maps between texts -/

namespace OrderedMap

/-- A map between texts as a map between values. -/
def ofTexts (m : OrderedMap String String) : OrderedMap Value Value :=
  ⟨m.entries.map fun e => (.text e.1, .text e.2)⟩

/-- A map whose entries are texts is one between texts. -/
lemma exists_ofTexts {m : OrderedMap Value Value}
    (h : ∀ e ∈ m.entries, ∃ k v, e = (Value.text k, Value.text v)) : ∃ n, m = ofTexts n := by
  obtain ⟨entries⟩ := m
  induction entries with
  | nil => exact ⟨⟨[]⟩, rfl⟩
  | cons e rest ih =>
    obtain ⟨k, v, rfl⟩ := h e List.mem_cons_self
    obtain ⟨n, hn⟩ := ih fun e' he' => h e' (List.mem_cons_of_mem _ he')
    refine ⟨⟨(k, v) :: n.entries⟩, ?_⟩
    simp only [ofTexts, mk.injEq, List.map_cons] at hn ⊢
    rw [hn]

variable (n : OrderedMap String String)

/-- The keys of a map between texts. -/
lemma keys_ofTexts : (ofTexts n).keys = n.keys.map .text := by
  simp [ofTexts, keys]

/-- A map between texts has distinct keys as one between values when it has. -/
lemma distinctKeys_ofTexts : (ofTexts n).DistinctKeys ↔ n.DistinctKeys := by
  simp only [DistinctKeys, keys_ofTexts, List.pairwise_map, Value.same_text]

/-- Looking up a text in a map between texts. -/
lemma find?_ofTexts (k : String) : (ofTexts n).find? (.text k) = (n.find? k).map .text := by
  obtain ⟨entries⟩ := n
  simp only [ofTexts, find?]
  induction entries with
  | nil => rfl
  | cons e rest ih =>
    simp only [List.map_cons, lookup, Value.same_text]
    split
    · rfl
    · exact ih

/-- Storing a text in a map between texts. -/
lemma insert_ofTexts (k v : String) :
    (ofTexts n).insert (.text k) (.text v) = ofTexts (n.insert k v) := by
  obtain ⟨entries⟩ := n
  simp only [ofTexts, insert, mk.injEq]
  induction entries with
  | nil => rfl
  | cons e rest ih =>
    simp only [List.map_cons, store, Value.same_text]
    split
    · rfl
    · simp only [List.map_cons, ih]

/-- Merging maps between texts. -/
lemma merge_ofTexts (other : OrderedMap String String) :
    (ofTexts n).merge (ofTexts other) = ofTexts (n.merge other) := by
  obtain ⟨entries⟩ := other
  simp only [merge, insertAll, ofTexts]
  induction entries generalizing n with
  | nil => rfl
  | cons e rest ih =>
    have hinsert := insert_ofTexts n e.1 e.2
    simp only [ofTexts] at hinsert
    simp only [List.map_cons, List.foldl_cons, hinsert]
    exact ih _

end OrderedMap

/-! ## Tags in order -/

/-- The tags that are written, in the order of their keys: neither the key nor the value is
empty. -/
def ascendingTags (n : OrderedMap String String) : List (String × String) :=
  (n.entries.mergeSort keyLE).filter fun tag => tag.1 ≠ "" ∧ tag.2 ≠ ""

/-- **The tags stand in strictly ascending order.** -/
theorem pairwise_ascendingTags {n : OrderedMap String String} (h : n.DistinctKeys) :
    (ascendingTags n).Pairwise fun a b => Value.lessText a.1.toList b.1.toList = true := by
  exact (pairwise_mergeSort_tags ((OrderedMap.distinctKeys_iff_nodup n).1 h)).filter _

/-- **The tags are the look-ups** with a key and a value that are not empty. -/
theorem mem_ascendingTags {n : OrderedMap String String} (h : n.DistinctKeys) (k v : String) :
    (k, v) ∈ ascendingTags n ↔ k ≠ "" ∧ v ≠ "" ∧ n.find? k = some v := by
  rw [ascendingTags, List.mem_filter, (List.mergeSort_perm n.entries keyLE).mem_iff,
    OrderedMap.mem_entries_iff h, decide_eq_true_iff]
  tauto

end SeriesClient
