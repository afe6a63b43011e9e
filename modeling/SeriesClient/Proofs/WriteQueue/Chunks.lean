import SeriesClient.Proofs.OrderedMap
import SeriesClient.WriteQueue.Basic

set_option relaxedAutoImplicit false
set_option autoImplicit false

/-!
# Chunks of paired lots

A point travels with its cookie. Cutting lots into chunks keeps each pair together, leaves
none out and keeps the order within each database.

## Main definitions

* `SeriesClient.Lot.items`, `SeriesClient.Chunk.items` — points with their cookies.
* `SeriesClient.Chunk.IsSized` — a chunk of the right size, with a cookie for each point.
* `SeriesClient.itemsFor` — what some chunks hold for a database.
* `SeriesClient.WriteQueue.queuedFor` — what waits for a database.
* `SeriesClient.WriteQueue.Paired` — each point that waits has a cookie.

## Main results

* `SeriesClient.Lot.items_chunks` — the chunks of a lot hold its items in order.
* `SeriesClient.WriteQueue.itemsFor_chunks` — the chunks of all lots hold what waits.
* `SeriesClient.WriteQueue.queuedFor_store` — storing adds to what waits for its database.
-/

namespace SeriesClient

variable {δ α κ : Type}

/-- The points of a lot with their cookies. -/
def Lot.items (l : Lot α κ) : List (α × κ) := l.points.zip l.cookies

/-- The points of a chunk with their cookies. -/
def Chunk.items (c : Chunk δ α κ) : List (α × κ) := c.points.zip c.cookies

/-- A chunk with at least one point and not too many, and with a cookie for each point. -/
structure Chunk.IsSized (size : Nat) (c : Chunk δ α κ) : Prop where
  /-- There is a point. -/
  nonempty : 0 < c.points.length
  /-- There are not too many points. -/
  atMost : c.points.length ≤ size
  /-- There is a cookie for each point. -/
  paired : c.cookies.length = c.points.length

/-- A size that a setting can be used as is positive. -/
lemma ChunkSize.pos_of_ofValue {v : Value} {size : Nat} (h : ofValue v = .atMost size) :
    0 < size := by
  have hofInt : ∀ {n : Int}, ofInt n = .atMost size → 0 < size := by
    intro n hn
    simp only [ofInt] at hn
    split at hn
    · cases hn
    · split at hn
      · cases hn
      · cases hn
        omega
  unfold ofValue at h
  split at h
  · exact hofInt h
  · exact hofInt h
  · exact hofInt h
  · cases h

namespace Lot

variable {size : Nat} {database : δ}

/-- Every chunk of a lot is for the database of the lot, and of the right size. -/
lemma isSized_of_mem_cut (pos : 0 < size) {bound : Nat} {points : List α} {cookies : List κ}
    (hlen : cookies.length = points.length) {c : Chunk δ α κ}
    (hc : c ∈ cut database size bound points cookies) : c.IsSized size ∧ c.database = database := by
  induction bound generalizing points cookies with
  | zero => cases hc
  | succ bound ih =>
    cases points with
    | nil => cases hc
    | cons p points =>
      rcases List.mem_cons.1 hc with rfl | hc
      · refine ⟨⟨?_, List.length_take_le _ _, ?_⟩, rfl⟩
        · simp only [List.length_take, List.length_cons]
          omega
        · rw [List.length_take, List.length_take, hlen]
      · refine ih ?_ hc
        rw [List.length_drop, List.length_drop, hlen]

/-- As many chunks as there are points hold all items. -/
lemma items_cut (pos : 0 < size) (bound : Nat) {points : List α} {cookies : List κ}
    (h : points.length ≤ bound) :
    (cut database size bound points cookies).flatMap Chunk.items = points.zip cookies := by
  induction bound generalizing points cookies with
  | zero => simp [cut, List.eq_nil_of_length_eq_zero (Nat.le_zero.1 h)]
  | succ bound ih =>
    cases points with
    | nil => rfl
    | cons p points =>
      have hdrop : ((p :: points).drop size).length ≤ bound := by
        simp only [List.length_drop, List.length_cons] at h ⊢
        omega
      rw [cut, List.flatMap_cons, ih hdrop, Chunk.items]
      simp only [List.zip, ← List.take_zipWith, ← List.drop_zipWith]
      exact List.take_append_drop size _

/-- **The chunks of a lot hold its items in order.** -/
theorem items_chunks (l : Lot α κ) (database : δ) (pos : 0 < size) :
    (l.chunks database size).flatMap Chunk.items = l.items :=
  items_cut pos _ (Nat.le_refl _)

end Lot

/-! ## Databases -/

section Databases

variable [BEq δ]

/-- What some chunks hold for a database. -/
def itemsFor (k : δ) (chunks : List (Chunk δ α κ)) : List (α × κ) :=
  (chunks.filter (·.database == k)).flatMap Chunk.items

/-- What two lists of chunks hold is what each of them does. -/
lemma itemsFor_append (k : δ) (cs ds : List (Chunk δ α κ)) :
    itemsFor k (cs ++ ds) = itemsFor k cs ++ itemsFor k ds := by
  simp [itemsFor]

/-- The chunks of a lot hold its items for the database of the lot and nothing for another. -/
lemma itemsFor_chunks (l : Lot α κ) (hl : l.cookies.length = l.points.length) (database k : δ)
    {size : Nat} (pos : 0 < size) :
    itemsFor k (l.chunks database size) = if database == k then l.items else [] := by
  have hdatabase : ∀ c ∈ l.chunks database size, c.database = database := fun c hc =>
    (Lot.isSized_of_mem_cut pos hl hc).2
  by_cases h : (database == k) = true
  · have hall : (l.chunks database size).filter (·.database == k) = l.chunks database size :=
      List.filter_eq_self.2 fun c hc => by rw [hdatabase c hc, h]
    rw [itemsFor, hall, if_pos h, Lot.items_chunks l database pos]
  · have hnone : (l.chunks database size).filter (·.database == k) = [] :=
      List.filter_eq_nil_iff.2 fun c hc => by
        rw [hdatabase c hc]
        exact h
    rw [itemsFor, hnone, if_neg h]
    rfl

end Databases

namespace WriteQueue

/-- The lots of a queue: one for each database, and with a cookie for each point. -/
structure Paired [BEq δ] (q : WriteQueue δ α κ) : Prop where
  /-- Each database has one lot. -/
  distinct : q.queued.DistinctKeys
  /-- Each point that waits has a cookie. -/
  cookies : ∀ e ∈ q.queued.entries, e.2.cookies.length = e.2.points.length

/-- What waits for a database. -/
def queuedFor [BEq δ] (q : WriteQueue δ α κ) (k : δ) : List (α × κ) :=
  ((q.queued.find? k).map Lot.items).getD []

variable [BEq δ] [PartialEquivBEq δ]

/-- **The chunks of all lots hold what waits**, and each of them has the right size. -/
theorem itemsFor_chunks {q : WriteQueue δ α κ} (h : q.Paired) {size : Nat} (pos : 0 < size) :
    ∃ chunks, chunksOf? (.atMost size) q.queued.entries = some chunks ∧
      (∀ c ∈ chunks, c.IsSized size) ∧ ∀ k, itemsFor k chunks = q.queuedFor k := by
  refine ⟨_, rfl, ?_, fun k => ?_⟩
  · intro c hc
    obtain ⟨e, he, hc⟩ := List.mem_flatMap.1 hc
    exact (Lot.isSized_of_mem_cut pos (h.cookies e he) hc).1
  · rw [queuedFor, ← OrderedMap.flatMap_entries h.distinct Lot.items k]
    have hcookies := h.cookies
    generalize q.queued.entries = entries at hcookies
    induction entries with
    | nil => rfl
    | cons e rest ih =>
      have hhead := SeriesClient.itemsFor_chunks e.2 (hcookies e List.mem_cons_self) e.1 k pos
      have htail := ih fun e' he' => hcookies e' (List.mem_cons_of_mem _ he')
      rw [List.flatMap_cons, List.flatMap_cons, itemsFor_append, hhead, htail]

omit [PartialEquivBEq δ] in
/-- The lot that is found for a database has as many cookies as points. -/
lemma Paired.length_cookies {q : WriteQueue δ α κ} (h : q.Paired) (database : δ) :
    ((q.queued.find? database).getD .empty).cookies.length =
      ((q.queued.find? database).getD .empty).points.length := by
  cases hfind : q.queued.find? database with
  | none => rfl
  | some l =>
    obtain ⟨database', -, hmem⟩ := OrderedMap.exists_mem_of_find? hfind
    exact h.cookies _ hmem

omit [PartialEquivBEq δ] in
/-- Storing as many cookies as points leaves as many cookies as points. -/
lemma Paired.store {q : WriteQueue δ α κ} (h : q.Paired) (database : δ)
    (items : List (α × κ)) :
    (q.store database (items.map Prod.fst) (items.map Prod.snd)).Paired := by
  refine ⟨OrderedMap.distinctKeys_insert h.distinct _ _, fun e he => ?_⟩
  rcases OrderedMap.mem_entries_insert he with he | he
  · rw [he, Lot.add, List.length_append, List.length_append, h.length_cookies, List.length_map,
      List.length_map]
  · exact h.cookies e he

/-- **Storing adds to what waits for its database** and to nothing else. -/
theorem queuedFor_store {q : WriteQueue δ α κ} (h : q.Paired) (database k : δ)
    (items : List (α × κ)) :
    (q.store database (items.map Prod.fst) (items.map Prod.snd)).queuedFor k =
      q.queuedFor k ++ if database == k then items else [] := by
  simp only [queuedFor, store, OrderedMap.find?_insert]
  by_cases hk : (database == k) = true
  · have hlen := h.length_cookies database
    have hitems : ((q.queued.find? database).getD .empty).items =
        ((q.queued.find? k).map Lot.items).getD [] := by
      rw [OrderedMap.find?_congr q.queued hk]
      cases q.queued.find? k <;> rfl
    rw [if_pos hk, if_pos hk, Option.map_some, Option.getD_some, ← hitems]
    simp only [Lot.items, Lot.add]
    rw [List.zip_append hlen.symm, ← List.zip_of_prod rfl rfl]
  · rw [if_neg hk, if_neg hk, List.append_nil]

end WriteQueue

end SeriesClient
