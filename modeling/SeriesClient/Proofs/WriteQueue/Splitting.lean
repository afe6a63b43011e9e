import SeriesClient.Point.LineProtocol
import SeriesClient.Proofs.Result
import SeriesClient.WriteQueue.Lot

set_option relaxedAutoImplicit false
set_option autoImplicit false

/-!
# Lines of chunks

Entries that wait are written chunk by chunk. The lines of the chunks, one below the other, are
those of all entries: entries without a line, and chunks without any, leave no empty line
behind, and no two lines run into each other where one chunk ends and the next begins.

## Main definitions

* `SeriesClient.joinLines` — lines one below the other, without the empty ones.

## Main results

* `SeriesClient.Lot.getElem?_points_chunks` — the chunks of a lot are its consecutive slices.
* `SeriesClient.Entry.encode_append` — the lines of two sequences of entries.
* `SeriesClient.Entry.encode_chunks` — chunks have the lines of all entries.
-/

namespace SeriesClient

/-! ## Lines -/

/-- Lines one below the other, without the empty ones. -/
def joinLines (lines : List (List Char)) : List Char :=
  List.intercalate ['\n'] (lines.filter fun l => !l.isEmpty)

/-- No lines come to nothing. -/
@[simp]
lemma joinLines_nil : joinLines [] = [] := rfl

/-- An empty line is left out. -/
@[simp]
lemma joinLines_nil_cons (lines : List (List Char)) : joinLines ([] :: lines) = joinLines lines :=
  rfl

/-- A single line is itself. -/
@[simp]
lemma joinLines_singleton (l : List Char) : joinLines [l] = l := by
  cases l <;> simp [joinLines]

/-- Behind a line that is not empty there is a break, unless nothing comes behind it. -/
lemma joinLines_cons {l : List Char} (hl : l ≠ []) (lines : List (List Char)) :
    joinLines (l :: lines) = if joinLines lines = [] then l else l ++ '\n' :: joinLines lines := by
  have hkept : (l :: lines).filter (fun l => !l.isEmpty) =
      l :: lines.filter fun l => !l.isEmpty := List.filter_cons_of_pos (by simpa using hl)
  rw [joinLines, hkept]
  rcases hrest : lines.filter (fun l => !l.isEmpty) with _ | ⟨l', rest⟩
  · simp [joinLines, hrest]
  · -- The first of the lines that are kept has a character.
    have hmem : l' ∈ lines.filter fun l => !l.isEmpty := by
      rw [hrest]
      exact List.mem_cons_self
    have hl' : l' ≠ [] := by simpa using (List.mem_filter.mp hmem).2
    have hne : joinLines lines ≠ [] := by
      rw [joinLines, hrest]
      cases rest <;> simp [List.intercalate_cons_cons, hl']
    rw [if_neg hne, joinLines, hrest, List.intercalate_cons_cons, List.append_assoc]
    rfl

/-- **Lines of two lists, one list below the other**: it does not matter whether the lists have been
joined before. -/
lemma joinLines_append (xs ys : List (List Char)) :
    joinLines (xs ++ ys) = joinLines [joinLines xs, joinLines ys] := by
  induction xs with
  | nil => simp
  | cons l xs ih =>
    by_cases hl : l = []
    · subst hl
      exact ih
    · have hne : joinLines (l :: xs) ≠ [] := by
        rw [joinLines_cons hl]
        split <;> simp [hl]
      rw [List.cons_append, joinLines_cons hl, ih, joinLines_cons hne, joinLines_cons hl,
        joinLines_singleton]
      by_cases hxs : joinLines xs = []
      · simp [hxs]
      · rw [joinLines_cons hxs]
        by_cases hys : joinLines ys = [] <;> simp [hxs, hys]

/-! ## Slices -/

namespace Lot

variable {δ α κ : Type} {database : δ} {size : Nat}

/-- As many chunks as there are points are the consecutive slices of the points. -/
lemma getElem?_points_cut (pos : 0 < size) {bound : Nat} {points : List α} {cookies : List κ}
    (h : points.length ≤ bound) (i : Nat) :
    ((cut database size bound points cookies).map Chunk.points)[i]? =
      if i * size < points.length then some ((points.drop (i * size)).take size) else none := by
  induction bound generalizing points cookies i with
  | zero => simp [cut, List.eq_nil_of_length_eq_zero (Nat.le_zero.mp h)]
  | succ bound ih =>
    cases points with
    | nil => simp [cut]
    | cons p points =>
      rw [cut, List.map_cons]
      cases i with
      | zero => simp
      | succ i =>
        have hdrop : ((p :: points).drop size).length ≤ bound := by
          simp only [List.length_drop, List.length_cons] at h ⊢
          omega
        rw [List.getElem?_cons_succ, ih hdrop, List.drop_drop, List.length_drop, Nat.succ_mul,
          Nat.add_comm size]
        by_cases hi : i * size + size < (p :: points).length
        · rw [if_pos hi, if_pos (by omega)]
        · rw [if_neg hi, if_neg (by omega)]

/-- **The chunks of a lot are its consecutive slices** of the size given, as far as there are
points. -/
theorem getElem?_points_chunks (lot : Lot α κ) (pos : 0 < size) (i : Nat) :
    ((lot.chunks database size).map Chunk.points)[i]? =
      if i * size < lot.points.length then some ((lot.points.drop (i * size)).take size)
      else none :=
  getElem?_points_cut pos (Nat.le_refl _) i

end Lot

/-! ## Entries -/

namespace Entry

variable {precision defaults : Value}

/-- The lines of entries are joined. -/
lemma encode_eq (entries : List Entry) : encode precision defaults entries =
    (entries.mapM (line precision defaults)).map joinLines := by
  unfold encode
  cases entries.mapM (line precision defaults) <;> rfl

/-- **The lines of two sequences of entries** are those of the first one and, below them, those of
the second one; and they cannot be told if one of the two cannot. -/
theorem encode_append (xs ys : List Entry) : encode precision defaults (xs ++ ys) =
    (do return joinLines [← encode precision defaults xs, ← encode precision defaults ys]) := by
  rw [encode_eq, encode_eq, encode_eq, List.mapM_append]
  rcases xs.mapM (line precision defaults) with fault | above
  · rfl
  · rcases ys.mapM (line precision defaults) with fault | below
    · rfl
    · exact congrArg Except.ok (joinLines_append above below)

/-- The lines of several sequences of entries are those of one sequence below those of the other. -/
lemma encode_flatten (groups : List (List Entry)) :
    (groups.mapM (encode precision defaults)).map joinLines =
      encode precision defaults groups.flatten := by
  induction groups with
  | nil => rfl
  | cons group groups ih =>
    rw [List.flatten_cons, encode_append, ← ih, List.mapM_cons]
    rcases encode precision defaults group with fault | text
    · rfl
    · rcases groups.mapM (encode precision defaults) with fault | texts
      · rfl
      · have hjoin := joinLines_append [text] texts
        rw [joinLines_singleton] at hjoin
        exact congrArg Except.ok hjoin

/-- Entries that have lines come to a text. -/
lemma exists_encode {entries : List Entry}
    (h : ∀ e ∈ entries, ∃ text, e.line precision defaults = .ok text) :
    ∃ text, encode precision defaults entries = .ok text := by
  obtain ⟨lines, hlines⟩ := exists_mapM h
  exact ⟨joinLines lines, by rw [encode_eq, hlines]; rfl⟩

/-- **Splitting entries into chunks does not change their lines**, whatever the unit, the default
tags and the size. The chunks are the consecutive slices of the entries. What they come to, one
below the other and without those that come to nothing, is what all entries come to; it can be told
if each entry has a line, and otherwise the fault is the same.

**Proof sketch.** The lines of two sequences of entries are the lines of each, one below the other
(`encode_append`), so by induction the same holds of any number of sequences; and the chunks put
together are the entries (`Lot.points_chunks`). -/
theorem encode_chunks {δ κ : Type} (lot : Lot Entry κ) (database : δ) {size : Nat} (pos : 0 < size)
    (precision defaults : Value) :
    (∀ i, ((lot.chunks database size).map Chunk.points)[i]? =
        if i * size < lot.points.length then some ((lot.points.drop (i * size)).take size)
        else none) ∧
      (((lot.chunks database size).map Chunk.points).mapM (encode precision defaults)).map
          (fun texts => List.intercalate ['\n'] (texts.filter fun text => !text.isEmpty)) =
        encode precision defaults lot.points ∧
      ((∀ e ∈ lot.points, ∃ text, e.line precision defaults = .ok text) →
        ∃ texts, ((lot.chunks database size).map Chunk.points).mapM (encode precision defaults) =
            .ok texts ∧
          encode precision defaults lot.points =
            .ok (List.intercalate ['\n'] (texts.filter fun text => !text.isEmpty))) := by
  have hflatten : ((lot.chunks database size).map Chunk.points).flatten = lot.points := by
    rw [← List.flatMap_def]
    exact Lot.points_chunks lot database pos
  have hjoin : (((lot.chunks database size).map Chunk.points).mapM
      (encode precision defaults)).map joinLines = encode precision defaults lot.points := by
    rw [encode_flatten, hflatten]
  refine ⟨fun i => Lot.getElem?_points_chunks lot pos i, hjoin, fun h => ?_⟩
  obtain ⟨text, htext⟩ := exists_encode h
  rw [htext] at hjoin ⊢
  rcases htexts : ((lot.chunks database size).map Chunk.points).mapM
      (encode precision defaults) with fault | texts
  · rw [htexts] at hjoin
    nomatch hjoin
  · rw [htexts] at hjoin
    exact ⟨texts, rfl, hjoin.symm⟩

/-- Four records, of which two come to nothing. -/
def sparseLot : Lot Entry Unit :=
  ⟨[.raw (.text "door open=t"), .raw .null, .raw (.text ""), .raw (.text "door open=f")], []⟩

/-- Chunks of one entry, of which two come to nothing, have the lines of all entries. -/
theorem encode_chunks_sparseLot :
    ((sparseLot.chunks () 1).map Chunk.points).mapM (encode .null .null) =
        .ok ["door open=t".toList, [], [], "door open=f".toList] ∧
      encode .null .null sparseLot.points = .ok "door open=t\ndoor open=f".toList := by
  have hlines : ∀ e ∈ sparseLot.points, ∃ text, e.line .null .null = .ok text := by
    intro e he
    simp only [sparseLot, List.mem_cons, List.not_mem_nil, or_false] at he
    rcases he with rfl | rfl | rfl | rfl <;> exact ⟨_, rfl⟩
  obtain ⟨texts, htexts, hall⟩ :=
    (encode_chunks sparseLot () Nat.one_pos .null .null).2.2 hlines
  have hparts : ((sparseLot.chunks () 1).map Chunk.points).mapM (encode .null .null) =
      .ok ["door open=t".toList, [], [], "door open=f".toList] := rfl
  obtain rfl := Except.ok.inj (htexts.symm.trans hparts)
  exact ⟨hparts, hall.trans rfl⟩

end Entry

end SeriesClient
