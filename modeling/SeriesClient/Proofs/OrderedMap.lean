import Mathlib.Tactic.Lemma
import SeriesClient.OrderedMap

set_option relaxedAutoImplicit false
set_option autoImplicit false

/-!
# Ordered maps as finite functions

What insertion, removal and merging do to look-ups, and when the entries of a map are its
look-ups.

## Main definitions

* `SeriesClient.OrderedMap.DistinctKeys` — no two entries have the same key.

## Main results

* `SeriesClient.OrderedMap.distinctKeys_insert`, `SeriesClient.OrderedMap.distinctKeys_erase`,
  `SeriesClient.OrderedMap.distinctKeys_merge` — the operations keep keys apart.
* `SeriesClient.OrderedMap.entries_ofList` — entries with distinct keys stay as they are.
* `SeriesClient.OrderedMap.mem_entries_iff` — the entries are the look-ups.
* `SeriesClient.OrderedMap.find?_merge` — the merged map answers before the one it is merged
  into.

## Design

Keeping keys apart needs nothing of the comparison of keys. Only what is said about look-ups
asks that equal keys be the same.
-/

namespace SeriesClient.OrderedMap

variable {κ α β : Type}

/-! ## Distinct keys -/

section Distinct

variable [BEq κ]

/-- No two entries have the same key. -/
def DistinctKeys (m : OrderedMap κ α) : Prop :=
  m.keys.Pairwise fun k k' => (k == k') = false

/-- The map without entries has distinct keys. -/
lemma distinctKeys_empty : (empty : OrderedMap κ α).DistinctKeys := List.Pairwise.nil

/-- A key that is stored is found among the keys. -/
lemma contains_eq_any_keys (m : OrderedMap κ α) (k : κ) :
    m.contains k = m.keys.any (· == k) := by
  simp [contains, keys, List.any_map, Function.comp_def]

/-- Nothing is found under a key that is not stored. -/
lemma find?_eq_none {m : OrderedMap κ α} {k : κ} (h : ∀ k' ∈ m.keys, (k' == k) = false) :
    m.find? k = none := by
  obtain ⟨entries⟩ := m
  simp only [keys, find?] at h ⊢
  induction entries with
  | nil => rfl
  | cons e rest ih =>
    have hhead : (e.1 == k) = false := h e.1 List.mem_cons_self
    have htail := ih fun k' hk' => h k' (List.mem_cons_of_mem _ hk')
    simp [lookup, hhead, htail]

/-- What is found under a key is an entry of a key that equals it. -/
lemma exists_mem_of_find? {m : OrderedMap κ α} {k : κ} {a : α} (h : m.find? k = some a) :
    ∃ k', (k' == k) = true ∧ (k', a) ∈ m.entries := by
  obtain ⟨entries⟩ := m
  simp only [find?] at h ⊢
  induction entries with
  | nil => cases h
  | cons e rest ih =>
    simp only [lookup] at h
    split at h
    · next hk =>
      cases h
      exact ⟨e.1, hk, List.mem_cons_self⟩
    · obtain ⟨k', hk', hmem⟩ := ih h
      exact ⟨k', hk', List.mem_cons_of_mem _ hmem⟩

/-- After a value has been stored, an entry has this value or was there before. -/
lemma mem_entries_insert {m : OrderedMap κ α} {k : κ} {a : α} {e : κ × α}
    (h : e ∈ (m.insert k a).entries) : e.2 = a ∨ e ∈ m.entries := by
  obtain ⟨entries⟩ := m
  simp only [insert] at h ⊢
  induction entries with
  | nil =>
    rw [List.mem_singleton.1 h]
    exact .inl rfl
  | cons e' rest ih =>
    simp only [store] at h
    split at h
    · rcases List.mem_cons.1 h with rfl | h
      · exact .inl rfl
      · exact .inr (List.mem_cons_of_mem _ h)
    · rcases List.mem_cons.1 h with rfl | h
      · exact .inr List.mem_cons_self
      · exact (ih h).imp id (List.mem_cons_of_mem _)

/-- Storing a value keeps keys apart. -/
theorem distinctKeys_insert {m : OrderedMap κ α} (h : m.DistinctKeys) (k : κ) (a : α) :
    (m.insert k a).DistinctKeys := by
  unfold DistinctKeys
  rcases hk : m.contains k with _ | _
  · rw [keys_insert_of_not_contains m k a hk, List.pairwise_append]
    refine ⟨h, List.pairwise_singleton _ _, fun k' hk' k'' hk'' => ?_⟩
    rw [List.mem_singleton.1 hk'']
    rw [contains_eq_any_keys, List.any_eq_false] at hk
    simpa using hk k' hk'
  · rw [keys_insert_of_contains m k a hk]
    exact h

/-- An entry of a map with distinct keys is what is found under its key, if the key equals
itself. -/
lemma find?_of_mem {m : OrderedMap κ α} (h : m.DistinctKeys) {k : κ} {a : α}
    (hk : (k == k) = true) (ha : (k, a) ∈ m.entries) : m.find? k = some a := by
  obtain ⟨entries⟩ := m
  simp only [DistinctKeys, keys, find?] at h ha ⊢
  induction entries with
  | nil => cases ha
  | cons e rest ih =>
    obtain ⟨hhead, htail⟩ := List.pairwise_cons.1 h
    rcases List.mem_cons.1 ha with rfl | ha
    · simp [lookup, hk]
    · have hne : (e.1 == k) = false := hhead k (List.mem_map_of_mem ha)
      simpa [lookup, hne] using ih htail ha

/-- Removing a key keeps the others apart. -/
theorem distinctKeys_erase {m : OrderedMap κ α} (h : m.DistinctKeys) (k : κ) :
    (m.erase k).DistinctKeys := by
  have hsub : (m.erase k).keys.Sublist m.keys := List.filter_sublist.map Prod.fst
  exact List.Pairwise.sublist hsub h

/-- Storing the entries of a list keeps keys apart. -/
lemma distinctKeys_insertAll {m : OrderedMap κ α} (h : m.DistinctKeys) (entries : List (κ × α)) :
    (m.insertAll entries).DistinctKeys := by
  induction entries generalizing m with
  | nil => exact h
  | cons e rest ih => exact ih (distinctKeys_insert h e.1 e.2)

/-- Merging keeps keys apart. -/
theorem distinctKeys_merge {m : OrderedMap κ α} (h : m.DistinctKeys) (other : OrderedMap κ α) :
    (m.merge other).DistinctKeys :=
  distinctKeys_insertAll h other.entries

/-- A new key is appended with its value. -/
lemma entries_insert_of_not_contains {m : OrderedMap κ α} {k : κ} (h : m.contains k = false)
    (a : α) : (m.insert k a).entries = m.entries ++ [(k, a)] := by
  obtain ⟨entries⟩ := m
  simp only [insert, contains] at h ⊢
  induction entries with
  | nil => rfl
  | cons e rest ih =>
    rw [List.any_cons, Bool.or_eq_false_iff] at h
    obtain ⟨hhead, hrest⟩ := h
    simp only [store, hhead, Bool.false_eq_true, if_false, ih hrest, List.cons_append]

/-- Entries that have keys of their own are appended in order. -/
lemma entries_insertAll {m : OrderedMap κ α} {entries : List (κ × α)}
    (h : (mk (m.entries ++ entries)).DistinctKeys) :
    (m.insertAll entries).entries = m.entries ++ entries := by
  induction entries generalizing m with
  | nil => exact (List.append_nil _).symm
  | cons e rest ih =>
    have hkeys : (m.keys ++ e.1 :: rest.map Prod.fst).Pairwise fun k k' => (k == k') = false := by
      simpa [DistinctKeys, keys] using h
    have hnew : m.contains e.1 = false := by
      rw [contains_eq_any_keys, List.any_eq_false]
      intro k hk
      rw [(List.pairwise_append.mp hkeys).2.2 k hk e.1 List.mem_cons_self]
      exact Bool.false_ne_true
    have hstored : (m.insert e.1 e.2).entries = m.entries ++ [e] :=
      entries_insert_of_not_contains hnew e.2
    have hstep : m.insertAll (e :: rest) = (m.insert e.1 e.2).insertAll rest := rfl
    rw [hstep, ih, hstored, List.append_assoc, List.singleton_append]
    rw [hstored, List.append_assoc, List.singleton_append]
    exact h

/-- The map of entries with distinct keys has just these entries. -/
theorem entries_ofList {entries : List (κ × α)} (h : (mk entries).DistinctKeys) :
    (ofList entries).entries = entries :=
  entries_insertAll h

/-- Entries that are appended are looked up last. -/
lemma lookup_append (k : κ) (entries rest : List (κ × α)) :
    lookup k (entries ++ rest) = (lookup k entries).or (lookup k rest) := by
  induction entries with
  | nil => rfl
  | cons e entries ih =>
    rw [List.cons_append, lookup, lookup, ih]
    split <;> rfl

/-- Something is stored under a key if something is found there. -/
lemma contains_eq_isSome (m : OrderedMap κ α) (k : κ) : m.contains k = (m.find? k).isSome := by
  obtain ⟨entries⟩ := m
  simp only [contains, find?]
  induction entries with
  | nil => rfl
  | cons e entries ih =>
    rw [List.any_cons, lookup, ih]
    split
    · next h => rw [h, Bool.true_or]; rfl
    · next h => rw [Bool.not_eq_true] at h; rw [h, Bool.false_or]

/-- Filling up keeps keys apart. -/
lemma distinctKeys_insertNew {m : OrderedMap κ α} (h : m.DistinctKeys) (k : κ) (a : α) :
    (m.insertNew k a).DistinctKeys := by
  unfold insertNew
  split
  · exact h
  · next hnew =>
    have hstored : OrderedMap.mk (m.entries ++ [(k, a)]) = m.insert k a := by
      rw [Bool.not_eq_true] at hnew
      rw [← entries_insert_of_not_contains hnew a]
    rw [hstored]
    exact distinctKeys_insert h k a

end Distinct

/-! ## Mapped values -/

section MapValues

variable [BEq κ] (f : α → β)

/-- Storing a mapped value is mapping the stored value. -/
lemma mapValues_insert (m : OrderedMap κ α) (k : κ) (a : α) :
    (m.insert k a).mapValues f = (m.mapValues f).insert k (f a) := by
  obtain ⟨entries⟩ := m
  simp only [mapValues, insert, mk.injEq]
  induction entries with
  | nil => rfl
  | cons e rest ih =>
    simp only [store, List.map_cons]
    split
    · rfl
    · simp only [List.map_cons, ih]

/-- Removing a key from a mapped map is mapping what is left. -/
lemma mapValues_erase (m : OrderedMap κ α) (k : κ) :
    (m.erase k).mapValues f = (m.mapValues f).erase k := by
  simp only [mapValues, erase, List.filter_map, Function.comp_def]

/-- Looking up in a mapped map is mapping what is found. -/
lemma find?_mapValues (m : OrderedMap κ α) (k : κ) :
    (m.mapValues f).find? k = (m.find? k).map f := by
  obtain ⟨entries⟩ := m
  simp only [mapValues, find?]
  induction entries with
  | nil => rfl
  | cons e rest ih =>
    simp only [List.map_cons, lookup]
    split
    · rfl
    · exact ih

end MapValues

/-! ## Look-ups -/

section Equivalence

variable [BEq κ] [PartialEquivBEq κ]

/-- The same is found under equal keys. -/
lemma find?_congr (m : OrderedMap κ α) {k k' : κ} (h : (k == k') = true) :
    m.find? k = m.find? k' := by
  obtain ⟨entries⟩ := m
  simp only [find?]
  induction entries with
  | nil => rfl
  | cons e rest ih =>
    have hsame : (e.1 == k) = (e.1 == k') := by
      rw [Bool.eq_iff_iff]
      exact ⟨fun hk => PartialEquivBEq.trans hk h,
        fun hk => PartialEquivBEq.trans hk (PartialEquivBEq.symm h)⟩
    simp only [lookup, hsame, ih]

/-- Storing a value changes the look-up of its key only. -/
lemma find?_insert (m : OrderedMap κ α) (k k' : κ) (a : α) :
    (m.insert k a).find? k' = if k == k' then some a else m.find? k' := by
  obtain ⟨entries⟩ := m
  simp only [find?, insert]
  induction entries with
  | nil => rfl
  | cons e rest ih =>
    obtain ⟨k₁, a₁⟩ := e
    by_cases h₁ : (k₁ == k) = true
    · have hsame : (k₁ == k') = (k == k') := by
        rw [Bool.eq_iff_iff]
        exact ⟨fun h => PartialEquivBEq.trans (PartialEquivBEq.symm h₁) h,
          fun h => PartialEquivBEq.trans h₁ h⟩
      simp only [store, lookup, h₁, hsame, if_true]
      split <;> rfl
    · rw [Bool.not_eq_true] at h₁
      simp only [store, lookup, h₁, Bool.false_eq_true, if_false, ih]
      by_cases h : (k₁ == k') = true
      · have hother : (k == k') = false := by
          rw [← Bool.not_eq_true]
          intro hk
          rw [PartialEquivBEq.trans h (PartialEquivBEq.symm hk)] at h₁
          cases h₁
        simp only [h, hother, Bool.false_eq_true, if_true, if_false]
      · simp only [h, Bool.false_eq_true, if_false]

/-- The entries of a map with distinct keys that belong to a key are at most one. -/
lemma flatMap_entries {m : OrderedMap κ α} (h : m.DistinctKeys) (f : α → List β) (k : κ) :
    (m.entries.flatMap fun e => if e.1 == k then f e.2 else []) =
      ((m.find? k).map f).getD [] := by
  obtain ⟨entries⟩ := m
  simp only [DistinctKeys, keys, find?] at h ⊢
  induction entries with
  | nil => rfl
  | cons e rest ih =>
    obtain ⟨hhead, htail⟩ := List.pairwise_cons.1 h
    rw [List.flatMap_cons, ih htail]
    by_cases hk : (e.1 == k) = true
    · have hrest : (mk rest).find? k = none := find?_eq_none fun k' hk' => by
        rw [← Bool.not_eq_true]
        intro hsame
        have hne := hhead k' hk'
        rw [PartialEquivBEq.trans hk (PartialEquivBEq.symm hsame)] at hne
        cases hne
      rw [find?] at hrest
      simp [lookup, hk, hrest]
    · simp [lookup, hk]

end Equivalence

section Lookup

variable [BEq κ] [LawfulBEq κ]

/-- What is found under a key is an entry. -/
lemma mem_of_find? {m : OrderedMap κ α} {k : κ} {a : α} (h : m.find? k = some a) :
    (k, a) ∈ m.entries := by
  obtain ⟨k', hk', hmem⟩ := exists_mem_of_find? h
  rw [← eq_of_beq hk']
  exact hmem

/-- The entries of a map with distinct keys are its look-ups. -/
theorem mem_entries_iff {m : OrderedMap κ α} (h : m.DistinctKeys) (k : κ) (a : α) :
    (k, a) ∈ m.entries ↔ m.find? k = some a :=
  ⟨find?_of_mem h (beq_self_eq_true k), mem_of_find?⟩

/-- A look-up after the entries of a list with distinct keys have been stored: they answer
first. -/
lemma find?_insertAll (entries : List (κ × α)) (m : OrderedMap κ α)
    (h : (mk entries).DistinctKeys) (k : κ) :
    (m.insertAll entries).find? k = ((mk entries).find? k).or (m.find? k) := by
  induction entries generalizing m with
  | nil => simp [insertAll, find?, lookup]
  | cons e rest ih =>
    obtain ⟨k₁, a₁⟩ := e
    obtain ⟨hhead, htail⟩ := List.pairwise_cons.1 h
    have hstep : (m.insertAll ((k₁, a₁) :: rest)) = (m.insert k₁ a₁).insertAll rest := rfl
    rw [hstep, ih _ htail, find?_insert]
    by_cases hk : k₁ = k
    · subst hk
      have hnone : (mk rest).find? k₁ = none := find?_eq_none fun k' hk' => by
        rw [beq_eq_false_iff_ne]
        exact Ne.symm (by simpa using hhead k' hk')
      rw [hnone]
      simp [find?, lookup]
    · simp [find?, lookup, hk]

/-- The merged map answers before the one it is merged into. -/
theorem find?_merge (m other : OrderedMap κ α) (h : other.DistinctKeys) (k : κ) :
    (m.merge other).find? k = (other.find? k).or (m.find? k) :=
  find?_insertAll other.entries m h k

/-- Keys are distinct if none of them is there twice. -/
lemma distinctKeys_iff_nodup (m : OrderedMap κ α) : m.DistinctKeys ↔ m.keys.Nodup := by
  simp only [DistinctKeys, List.Nodup, beq_eq_false_iff_ne, ne_eq]

/-- What was stored last under a key is found. -/
lemma find?_insertAll_eq_getLast? (entries : List (κ × α)) (m : OrderedMap κ α) (k : κ) :
    (m.insertAll entries).find? k =
      ((entries.filter fun e => e.1 == k).getLast?.map Prod.snd).or (m.find? k) := by
  induction entries generalizing m with
  | nil => rfl
  | cons e rest ih =>
    have hstep : m.insertAll (e :: rest) = (m.insert e.1 e.2).insertAll rest := rfl
    rw [hstep, ih, find?_insert, List.filter_cons]
    split
    · rw [List.getLast?_cons]
      cases (rest.filter fun e => e.1 == k).getLast? <;> rfl
    · rfl

/-- Maps with the same entries in another order find the same. -/
lemma find?_eq_of_perm {m m' : OrderedMap κ α} (h : m'.entries.Perm m.entries)
    (hm : m.DistinctKeys) : m'.DistinctKeys ∧ ∀ k, m'.find? k = m.find? k := by
  have hm' : m'.DistinctKeys := by
    rw [distinctKeys_iff_nodup] at hm ⊢
    exact (h.map Prod.fst).nodup_iff.2 hm
  refine ⟨hm', fun k => Option.ext fun a => ?_⟩
  rw [← mem_entries_iff hm', ← mem_entries_iff hm, h.mem_iff]

/-- What is found after a key has been removed. -/
lemma find?_erase (m : OrderedMap κ α) (k k' : κ) :
    (m.erase k).find? k' = if k == k' then none else m.find? k' := by
  obtain ⟨entries⟩ := m
  simp only [find?, erase]
  induction entries with
  | nil => simp [lookup]
  | cons e rest ih =>
    by_cases hk : e.1 = k
    · subst hk
      simp only [List.filter_cons, beq_self_eq_true, Bool.not_true, Bool.false_eq_true, if_false,
        ih, lookup]
      split <;> rfl
    · have hkept : (!(e.1 == k)) = true := by simpa using hk
      simp only [List.filter_cons, hkept, if_true, lookup, ih]
      by_cases hk' : e.1 = k'
      · have hne : k ≠ k' := fun h => hk (hk'.trans h.symm)
        simp [hk', hne]
      · simp [hk']

end Lookup

end SeriesClient.OrderedMap
