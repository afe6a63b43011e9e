import SeriesClient.Proofs.OrderedMap
import SeriesClient.Value.Equality

set_option relaxedAutoImplicit false
set_option autoImplicit false

/-!
# Texts as keys

Maps whose keys may be any values, as seen from the keys that are texts. Nothing but a text equals
a text, although equality of values is no equivalence.

## Main definitions

* `SeriesClient.Value.named` — entries whose keys are texts.
* `SeriesClient.OrderedMap.fill` — a map with the entries of another one under new keys.

## Main results

* `SeriesClient.Value.beq_text_iff` — only a text equals a text.
* `SeriesClient.OrderedMap.find?_insert_text` — what is found under a text.
* `SeriesClient.OrderedMap.mem_insert_text` — what is stored under a text.
* `SeriesClient.OrderedMap.mem_keys_insertAll` — which keys there are after many values have been
  stored.
* `SeriesClient.OrderedMap.find?_insertAll_named` — what is found under a text after a list of
  entries has been stored.
* `SeriesClient.OrderedMap.find?_fill_text` — what is found under a text in a map that has been
  filled up with another one.
-/

namespace SeriesClient

namespace Value

/-- Only a text equals a text. -/
theorem beq_text_iff {v : Value} {s : String} : (v == text s) = true ↔ v = text s := by
  constructor
  · intro h
    cases v with
    | text t =>
      rw [same_text, beq_iff_eq] at h
      rw [h]
    | _ => simp [BEq.beq, same, sameScalar, number?] at h
  · rintro rfl
    rw [same_text, beq_self_eq_true]

/-- A text is what is text. -/
lemma isText_iff {v : Value} : v.isText = true ↔ ∃ s, v = text s := by
  cases v <;> simp [isText]

/-- Entries with their names as values. -/
def named (entries : List (String × Value)) : List (Value × Value) :=
  entries.map fun e => (.text e.1, e.2)

end Value

namespace OrderedMap

variable {α : Type}

/-- What is found under a text after a value has been stored under a text. -/
theorem find?_insert_text (m : OrderedMap Value α) (s t : String) (a : α) :
    (m.insert (.text s) a).find? (.text t) = if s = t then some a else m.find? (.text t) := by
  obtain ⟨entries⟩ := m
  simp only [find?, insert]
  induction entries with
  | nil => simp [store, lookup, Value.same_text]
  | cons e rest ih =>
    obtain ⟨k, b⟩ := e
    by_cases hs : (k == Value.text s) = true
    · obtain rfl := Value.beq_text_iff.mp hs
      simp only [store, lookup, hs, if_true, Value.same_text, beq_iff_eq]
      split <;> rfl
    · by_cases ht : (k == Value.text t) = true
      · have hne : s ≠ t := by
          rintro rfl
          exact hs ht
        simp only [store, lookup, hs, ht, if_true, if_false, if_neg hne, Bool.false_eq_true]
      · simp only [store, lookup, hs, ht, if_false, Bool.false_eq_true, ih]

/-- After a value has been stored, a key is the one it was stored under, or was there before. -/
lemma mem_keys_insert {κ : Type} [BEq κ] {m : OrderedMap κ α} {k k' : κ} {a : α}
    (h : k' ∈ (m.insert k a).keys) : k' ∈ m.keys ∨ k' = k := by
  rcases hk : m.contains k with _ | _
  · rw [keys_insert_of_not_contains m k a hk] at h
    exact (List.mem_append.mp h).imp id List.mem_singleton.mp
  · rw [keys_insert_of_contains m k a hk] at h
    exact .inl h

section InsertAll

variable {κ : Type} [BEq κ]

/-- A value that is stored is in an entry. -/
lemma exists_mem_insert (m : OrderedMap κ α) (k : κ) (a : α) :
    ∃ k', (k' = k ∨ (k' == k) = true) ∧ (k', a) ∈ (m.insert k a).entries := by
  obtain ⟨entries⟩ := m
  simp only [insert]
  induction entries with
  | nil => exact ⟨k, .inl rfl, List.mem_singleton_self _⟩
  | cons e rest ih =>
    simp only [store]
    split
    · next hbeq => exact ⟨e.1, .inr hbeq, List.mem_cons_self⟩
    · obtain ⟨k', hk', hmem⟩ := ih
      exact ⟨k', hk', List.mem_cons_of_mem _ hmem⟩

/-- Storing a value keeps all keys. -/
lemma mem_keys_insert_of_mem {m : OrderedMap κ α} {k : κ} (h : k ∈ m.keys) (k' : κ) (a : α) :
    k ∈ (m.insert k' a).keys := by
  rcases hk : m.contains k' with _ | _
  · rw [keys_insert_of_not_contains m k' a hk]
    exact List.mem_append_left _ h
  · rw [keys_insert_of_contains m k' a hk]
    exact h

/-- Storing many values keeps all keys. -/
lemma mem_keys_insertAll_of_mem {m : OrderedMap κ α} {k : κ} (h : k ∈ m.keys)
    (entries : List (κ × α)) : k ∈ (m.insertAll entries).keys := by
  induction entries generalizing m with
  | nil => exact h
  | cons e rest ih => exact ih (mem_keys_insert_of_mem h e.1 e.2)

/-- After many values have been stored, a key is one of theirs, or was there before. -/
theorem mem_keys_insertAll {m : OrderedMap κ α} {k : κ} {entries : List (κ × α)}
    (h : k ∈ (m.insertAll entries).keys) : k ∈ m.keys ∨ ∃ e ∈ entries, e.1 = k := by
  induction entries generalizing m with
  | nil => exact .inl h
  | cons e rest ih =>
    rcases ih h with hk | ⟨e', he', hk⟩
    · rcases mem_keys_insert hk with hk | hk
      · exact .inl hk
      · exact .inr ⟨e, List.mem_cons_self, hk.symm⟩
    · exact .inr ⟨e', List.mem_cons_of_mem _ he', hk⟩

/-- The key of each of many values that have been stored is there, or one that equals it. -/
lemma exists_mem_keys_insertAll {m : OrderedMap κ α} {entries : List (κ × α)} {e : κ × α}
    (h : e ∈ entries) : ∃ k ∈ (m.insertAll entries).keys, k = e.1 ∨ (k == e.1) = true := by
  induction entries generalizing m with
  | nil => nomatch h
  | cons e' rest ih =>
    rcases List.mem_cons.mp h with rfl | h
    · obtain ⟨k, hk, hmem⟩ := exists_mem_insert m e.1 e.2
      exact ⟨k, mem_keys_insertAll_of_mem (List.mem_map_of_mem hmem) rest, hk⟩
    · exact ih h

end InsertAll

/-- What is found under a text after a list of entries has been stored: the last one of the list,
or else what was there before. -/
theorem find?_insertAll_named (m : OrderedMap Value Value) (entries : List (String × Value))
    (s : String) :
    (m.insertAll (Value.named entries)).find? (.text s) =
      ((entries.filter fun e => e.1 == s).getLast?.map Prod.snd).or (m.find? (.text s)) := by
  induction entries generalizing m with
  | nil => rfl
  | cons e rest ih =>
    have hstep : m.insertAll (Value.named (e :: rest)) =
        (m.insert (.text e.1) e.2).insertAll (Value.named rest) := rfl
    rw [hstep, ih, find?_insert_text, List.filter_cons]
    by_cases h : e.1 = s
    · rw [if_pos h, if_pos (beq_iff_eq.mpr h), List.getLast?_cons]
      cases (rest.filter fun e => e.1 == s).getLast? <;> rfl
    · rw [if_neg h, if_neg (by rwa [beq_iff_eq])]

/-! ## Filling up -/

/-- A text is a key if something is found under it. -/
lemma mem_keys_text_iff {m : OrderedMap Value α} {s : String} :
    .text s ∈ m.keys ↔ (m.find? (.text s)).isSome = true := by
  rw [← contains_eq_isSome, contains_eq_any_keys, List.any_eq_true]
  constructor
  · exact fun h => ⟨.text s, h, Value.beq_text_iff.mpr rfl⟩
  · rintro ⟨k, hk, hbeq⟩
    rwa [Value.beq_text_iff.mp hbeq] at hk

/-- A map that is filled up answers before the entry that it is filled up with. -/
lemma find?_insertNew_text (m : OrderedMap Value α) (k : Value) (a : α) (s : String) :
    (m.insertNew k a).find? (.text s) = (m.find? (.text s)).or (lookup (.text s) [(k, a)]) := by
  unfold insertNew
  split
  · next hold =>
    by_cases hk : (k == Value.text s) = true
    · rw [Value.beq_text_iff.mp hk, contains_eq_isSome, Option.isSome_iff_exists] at hold
      obtain ⟨b, hb⟩ := hold
      rw [hb, Option.some_or]
    · rw [lookup, if_neg hk, lookup, Option.or_none]
  · exact lookup_append _ _ _

/-- A key of a map with a new entry is the new one, or was there before. -/
lemma mem_keys_insertNew {m : OrderedMap Value α} {k k' : Value} {a : α}
    (h : k' ∈ (m.insertNew k a).keys) : k' ∈ m.keys ∨ k' = k := by
  unfold insertNew at h
  split at h
  · exact .inl h
  · rw [keys, List.map_append] at h
    exact (List.mem_append.mp h).imp id List.mem_singleton.mp

/-- Filling up a map with the entries of another one. -/
def fill (m other : OrderedMap Value α) : OrderedMap Value α :=
  other.entries.foldl (fun m e => m.insertNew e.1 e.2) m

/-- **A map that is filled up answers before the other one.** -/
theorem find?_fill_text (m other : OrderedMap Value α) (s : String) :
    (m.fill other).find? (.text s) = (m.find? (.text s)).or (other.find? (.text s)) := by
  obtain ⟨entries⟩ := other
  unfold fill
  induction entries generalizing m with
  | nil => exact (Option.or_none).symm
  | cons e rest ih =>
    rw [List.foldl_cons, ih, find?_insertNew_text, Option.or_assoc]
    exact congrArg (Option.or _) (lookup_append (.text s) [e] rest).symm

/-- Filling up keeps keys apart. -/
lemma distinctKeys_fill {m : OrderedMap Value α} (h : m.DistinctKeys)
    (other : OrderedMap Value α) : (m.fill other).DistinctKeys := by
  obtain ⟨entries⟩ := other
  unfold fill
  induction entries generalizing m with
  | nil => exact h
  | cons e rest ih => exact ih (distinctKeys_insertNew h e.1 e.2)

/-- A key of a map that has been filled up is from one of the two maps. -/
lemma mem_keys_fill {m other : OrderedMap Value α} {k : Value} (h : k ∈ (m.fill other).keys) :
    k ∈ m.keys ∨ k ∈ other.keys := by
  obtain ⟨entries⟩ := other
  unfold fill at h
  induction entries generalizing m with
  | nil => exact .inl h
  | cons e rest ih =>
    rcases ih h with hk | hk
    · refine (mem_keys_insertNew hk).imp id fun hk => ?_
      rw [hk]
      exact List.mem_cons_self
    · exact .inr (List.mem_cons_of_mem _ hk)

end OrderedMap

end SeriesClient
