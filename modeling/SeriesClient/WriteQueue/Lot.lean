import SeriesClient.OrderedMap
import SeriesClient.Value.Equality

set_option relaxedAutoImplicit false
set_option autoImplicit false

/-!
# Queued points

Points wait in lots, one for each database, and are written in chunks of a limited size. A
cookie can go with each point; it is handed back when the point has been written.

## Main definitions

* `SeriesClient.Lot` — the points of a database that wait, and their cookies.
* `SeriesClient.Chunk` — points that are written together.
* `SeriesClient.Lot.chunks` — the chunks of a lot.
* `SeriesClient.ChunkSize` — what a setting says about the size of chunks.
* `SeriesClient.chunksOf?` — the chunks of all lots.

## Main results

* `SeriesClient.Lot.points_chunks` — the chunks of a lot hold its points in order.

## Design

Points and cookies are cut at the same places, whether or not there are as many cookies as
points. Databases, points and cookies may be of any types.
-/

namespace SeriesClient

/-- The points of a database that wait, and their cookies. -/
structure Lot (α κ : Type) where
  /-- The points. -/
  points : List α
  /-- The cookies. -/
  cookies : List κ

/-- Points that are written together. -/
structure Chunk (δ α κ : Type) where
  /-- The database. -/
  database : δ
  /-- The points. -/
  points : List α
  /-- The cookies. -/
  cookies : List κ

namespace Lot

variable {δ α κ : Type}

/-- A lot without points. -/
def empty : Lot α κ := ⟨[], []⟩

/-- The lot with further points and cookies. -/
def add (l : Lot α κ) (points : List α) (cookies : List κ) : Lot α κ :=
  ⟨l.points ++ points, l.cookies ++ cookies⟩

/-- At most `bound` chunks of the given size. -/
def cut (database : δ) (size : Nat) : Nat → List α → List κ → List (Chunk δ α κ)
  | 0, _, _ => []
  | _ + 1, [], _ => []
  | bound + 1, p :: points, cookies =>
    ⟨database, (p :: points).take size, cookies.take size⟩
      :: cut database size bound ((p :: points).drop size) (cookies.drop size)

/-- The chunks of a lot. -/
def chunks (l : Lot α κ) (database : δ) (size : Nat) : List (Chunk δ α κ) :=
  cut database size l.points.length l.points l.cookies

/-- As many chunks as there are points hold all of them. -/
theorem points_cut (database : δ) {size : Nat} (pos : 0 < size) (bound : Nat) (points : List α)
    (cookies : List κ) (h : points.length ≤ bound) :
    (cut database size bound points cookies).flatMap Chunk.points = points := by
  induction bound generalizing points cookies with
  | zero =>
    have : points = [] := List.eq_nil_of_length_eq_zero (by omega)
    simp [cut, this]
  | succ bound ih =>
    cases points with
    | nil => simp [cut]
    | cons p points =>
      simp only [cut, List.flatMap_cons]
      rw [ih _ _ (by simp only [List.length_drop]; simp only [List.length_cons] at h ⊢; omega)]
      exact List.take_append_drop size (p :: points)

/-- The chunks of a lot hold its points in order. -/
theorem points_chunks (l : Lot α κ) (database : δ) {size : Nat} (pos : 0 < size) :
    (l.chunks database size).flatMap Chunk.points = l.points :=
  points_cut database pos _ _ _ (Nat.le_refl _)

end Lot

/-- What a setting says about the size of chunks. -/
inductive ChunkSize where
  /-- The greatest number of points. -/
  | atMost (size : Nat)
  /-- There are no chunks, whatever the points. -/
  | noChunks
  /-- The setting cannot be a size. -/
  | unusable
  deriving DecidableEq, Repr

/-- The size for an integer: zero is unusable, and steps below zero reach no point. -/
def ChunkSize.ofInt (n : Int) : ChunkSize :=
  if n = 0 then .unusable else if n < 0 then .noChunks else .atMost n.toNat

/-- The size for a setting. -/
def ChunkSize.ofValue : Value → ChunkSize
  | .int n => .ofInt n
  | .bool b => .ofInt (if b then 1 else 0)
  | .sized (.integer _ _ n) => .ofInt n
  | _ => .unusable

/-- The chunks of all lots, database by database, unless the size is unusable. -/
def chunksOf? {δ α κ : Type} (size : ChunkSize) (lots : List (δ × Lot α κ)) :
    Option (List (Chunk δ α κ)) :=
  match size with
  | .atMost n => some (lots.flatMap fun (database, lot) => lot.chunks database n)
  | .noChunks => some []
  | .unusable => none

end SeriesClient
