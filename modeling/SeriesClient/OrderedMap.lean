set_option relaxedAutoImplicit false
set_option autoImplicit false

/-!
# Maps in insertion order

Finite maps that remember the order in which their keys were first inserted. Storing under
a key that is present replaces the value and keeps the key's place.

## Main definitions

* `SeriesClient.OrderedMap` — the type, a list of entries.
* `OrderedMap.insert`, `OrderedMap.erase`, `OrderedMap.find?` — the operations.
* `OrderedMap.merge` — inserts all entries of another map.

## Main results

* `OrderedMap.keys_insert_of_contains` — replacing a value keeps the keys.

## Design

Keys are compared with `==`. Nothing here asks that this comparison be reflexive: a key
that differs from itself is stored again each time, and never found.
-/

namespace SeriesClient

/-- A finite map whose entries are kept in the order in which their keys came. -/
structure OrderedMap (κ α : Type) where
  /-- Keys with their values. -/
  entries : List (κ × α)

namespace OrderedMap

variable {κ α : Type}

/-- The map without entries. -/
def empty : OrderedMap κ α := ⟨[]⟩

instance : Inhabited (OrderedMap κ α) := ⟨empty⟩

/-- The keys in order. -/
def keys (m : OrderedMap κ α) : List κ := m.entries.map Prod.fst

/-- The values in the order of their keys. -/
def values (m : OrderedMap κ α) : List α := m.entries.map Prod.snd

/-- Whether the map has no entries. -/
def isEmpty (m : OrderedMap κ α) : Bool := m.entries.isEmpty

/-- The number of entries. -/
def size (m : OrderedMap κ α) : Nat := m.entries.length

/-- The same keys with other values. -/
def mapValues {β : Type} (f : α → β) (m : OrderedMap κ α) : OrderedMap κ β :=
  ⟨m.entries.map fun (k, a) => (k, f a)⟩

variable [BEq κ]

/-- The value of a key in a list of entries. -/
def lookup (k : κ) : List (κ × α) → Option α
  | [] => none
  | (k', a) :: rest => if k' == k then some a else lookup k rest

/-- The value stored under a key. -/
def find? (m : OrderedMap κ α) (k : κ) : Option α := lookup k m.entries

/-- Whether something is stored under a key. -/
def contains (m : OrderedMap κ α) (k : κ) : Bool := m.entries.any (·.1 == k)

/-- Replaces the value of a key in a list of entries, or appends a new entry. -/
def store (k : κ) (a : α) : List (κ × α) → List (κ × α)
  | [] => [(k, a)]
  | (k', a') :: rest => if k' == k then (k', a) :: rest else (k', a') :: store k a rest

/-- Stores a value under a key. -/
def insert (m : OrderedMap κ α) (k : κ) (a : α) : OrderedMap κ α := ⟨store k a m.entries⟩

/-- Removes a key. -/
def erase (m : OrderedMap κ α) (k : κ) : OrderedMap κ α := ⟨m.entries.filter fun e => !(e.1 == k)⟩

/-- Stores all entries of a list, in order. -/
def insertAll (m : OrderedMap κ α) (entries : List (κ × α)) : OrderedMap κ α :=
  entries.foldl (fun m e => m.insert e.1 e.2) m

/-- The map of a list of entries; a later entry replaces an earlier one of the same key. -/
def ofList (entries : List (κ × α)) : OrderedMap κ α := empty.insertAll entries

/-- The map with all entries of another one stored into it. -/
def merge (m other : OrderedMap κ α) : OrderedMap κ α := m.insertAll other.entries

/-- Stores a value under a key unless the key is present. -/
def insertNew (m : OrderedMap κ α) (k : κ) (a : α) : OrderedMap κ α :=
  if m.contains k then m else ⟨m.entries ++ [(k, a)]⟩

/-- Replacing a value keeps the keys and their order. -/
theorem keys_insert_of_contains (m : OrderedMap κ α) (k : κ) (a : α) (h : m.contains k = true) :
    (m.insert k a).keys = m.keys := by
  obtain ⟨entries⟩ := m
  simp only [keys, insert, contains] at *
  induction entries with
  | nil => simp at h
  | cons e rest ih =>
    obtain ⟨k', a'⟩ := e
    by_cases hk : (k' == k) = true
    · simp [store, hk]
    · simp only [List.any_cons, hk, Bool.false_or] at h
      simp [store, hk, ih h]

/-- A new key is appended. -/
theorem keys_insert_of_not_contains (m : OrderedMap κ α) (k : κ) (a : α)
    (h : m.contains k = false) : (m.insert k a).keys = m.keys ++ [k] := by
  obtain ⟨entries⟩ := m
  simp only [keys, insert, contains] at *
  induction entries with
  | nil => simp [store]
  | cons e rest ih =>
    obtain ⟨k', a'⟩ := e
    simp only [List.any_cons, Bool.or_eq_false_iff] at h
    simp [store, h.1, ih h.2]

end OrderedMap

end SeriesClient
