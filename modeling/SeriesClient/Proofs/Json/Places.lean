import Mathlib.Tactic.Choose
import SeriesClient.Proofs.TextKeys

set_option relaxedAutoImplicit false
set_option autoImplicit false

/-!
# Places in a document

A place in a document is given by the way that leads to it from the outside: at each object or array
on the way, the number of the entry or item that is entered. Places are ordered as lists of numbers
are, so an object comes before all that its entries hold, and what one entry holds comes before what
the next one holds.

## Main definitions

* `SeriesClient.Json.children`, `SeriesClient.Json.at?` — what an object or array holds, and what is
  at a place.
* `SeriesClient.Json.IsFirst` — the first value in the order of places.
* `SeriesClient.Json.NamesApart` — no object of a document has a name twice.

## Main results

* `SeriesClient.Json.induction_children` — induction from what is held to what holds it.
* `SeriesClient.Json.isFirst_findSome?`, `SeriesClient.Json.exists_isFirst_within` — the first value
  in a list of documents, from the first ones in each of them.
* `SeriesClient.Json.NamesApart.lookup_eq_some_iff` — what is stored under a name is an entry.
-/

namespace SeriesClient.Json

/-! ## Ways into a document -/

/-- What an object or an array holds, in order. -/
def children : Value → List Value
  | .dict entries => entries.map Prod.snd
  | .list xs => xs
  | _ => []

/-- What is at a place of a document. -/
def at? : Value → List Nat → Option Value
  | v, [] => some v
  | v, i :: path => (children v)[i]?.bind fun c => at? c path

/-- A way leads through one of the children. -/
lemma at?_cons_eq_some_iff {v w : Value} {i : Nat} {path : List Nat} :
    at? v (i :: path) = some w ↔ ∃ c, (children v)[i]? = some c ∧ at? c path = some w := by
  rw [at?, Option.bind_eq_some_iff]

/-- What is held is smaller than what holds it. -/
lemma sizeOf_lt_of_mem_children {v c : Value} (h : c ∈ children v) : sizeOf c < sizeOf v := by
  unfold children at h
  split at h
  · next entries =>
    obtain ⟨e, he, rfl⟩ := List.mem_map.mp h
    have hentry : sizeOf e < sizeOf entries := List.sizeOf_lt_of_mem he
    have hvalue : sizeOf e.2 < sizeOf e := by
      obtain ⟨k, w⟩ := e
      simp only [Prod.mk.sizeOf_spec]
      omega
    simp only [Value.dict.sizeOf_spec]
    omega
  · next xs =>
    have hitem : sizeOf c < sizeOf xs := List.sizeOf_lt_of_mem h
    simp only [Value.list.sizeOf_spec]
    omega
  · exact absurd h List.not_mem_nil

/-- **Induction over documents**, from what is held to what holds it. -/
@[elab_as_elim]
theorem induction_children {motive : Value → Prop}
    (node : ∀ v, (∀ c ∈ children v, motive c) → motive v) (v : Value) : motive v :=
  node v fun c _ => induction_children node c
termination_by v
decreasing_by exact sizeOf_lt_of_mem_children ‹_›

/-! ## The first of many -/

/-- A value is the first that something holds of, in the order of places. -/
structure FirstAt (holds : List Nat → Value → Prop) (path : List Nat) (v : Value) : Prop where
  /-- It holds of this value at this place. -/
  here : holds path v
  /-- It holds of nothing at an earlier place. -/
  before : ∀ p < path, ∀ w, ¬ holds p w

/-- The first value that something holds of, or none if it holds of nothing. -/
def IsFirst (holds : List Nat → Value → Prop) : Option Value → Prop
  | some v => ∃ path, FirstAt holds path v
  | none => ∀ path v, ¬ holds path v

/-- What holds in one of several documents, at places that begin with the number of the
document. -/
def Within (holds : Value → List Nat → Value → Prop) (xs : List Value) :
    List Nat → Value → Prop
  | [], _ => False
  | i :: path, v => ∃ x, xs[i]? = some x ∧ holds x path v

section First

variable {holds holds' : List Nat → Value → Prop} {r r' : Option Value}

/-- Two first places are the same. -/
lemma FirstAt.path_eq {path path' : List Nat} {v v' : Value} (h : FirstAt holds path v)
    (h' : FirstAt holds path' v') : path = path' := by
  rcases Std.lt_trichotomy path path' with hlt | heq | hlt
  · exact absurd h.here (h'.before path hlt v)
  · exact heq
  · exact absurd h'.here (h.before path' hlt v')

/-- **There is only one first value**, if there is one value at a place. -/
lemma IsFirst.eq (h : IsFirst holds r) (h' : IsFirst holds r')
    (hone : ∀ path v w, holds path v → holds path w → v = w) : r = r' := by
  cases r with
  | none =>
    cases r' with
    | none => rfl
    | some v =>
      obtain ⟨path, hv⟩ := h'
      exact absurd hv.here (h path v)
  | some v =>
    obtain ⟨path, hv⟩ := h
    cases r' with
    | none => exact absurd hv.here (h' path v)
    | some w =>
      obtain ⟨path', hw⟩ := h'
      obtain rfl := hv.path_eq hw
      rw [hone path v w hv.here hw.here]

/-- The first value depends on what holds only. -/
lemma IsFirst.congr (h : IsFirst holds r) (hsame : ∀ path v, holds path v ↔ holds' path v) :
    IsFirst holds' r := by
  obtain rfl : holds = holds' := funext fun path => funext fun v => propext (hsame path v)
  exact h

/-- What holds at the outside comes first. -/
lemma firstAt_nil {v : Value} (h : holds [] v) : FirstAt holds [] v :=
  ⟨h, fun p hp => absurd hp (List.not_lt_nil p)⟩

end First

section Within

variable {holds : Value → List Nat → Value → Prop} {xs : List Value}

/-- Nothing holds in a document in which no first value is found. -/
lemma not_holds_of_eq_none {find : Value → Option Value}
    (h : ∀ x ∈ xs, IsFirst (holds x) (find x)) {x : Value} (hx : x ∈ xs) (hnone : find x = none)
    (path : List Nat) (v : Value) : ¬ holds x path v := by
  have hfirst := h x hx
  rw [hnone] at hfirst
  exact hfirst path v

/-- **The first value in a list of documents** is the first one in the first of them that has
any. -/
theorem isFirst_findSome? {find : Value → Option Value}
    (h : ∀ x ∈ xs, IsFirst (holds x) (find x)) :
    IsFirst (Within holds xs) (xs.findSome? find) := by
  rcases hfound : xs.findSome? find with _ | v
  · rw [List.findSome?_eq_none_iff] at hfound
    intro path v hv
    cases path with
    | nil => exact hv
    | cons i path =>
      obtain ⟨x, hx, hv⟩ := hv
      have hmem : x ∈ xs := List.mem_of_getElem? hx
      exact not_holds_of_eq_none h hmem (hfound x hmem) path v hv
  · rw [List.findSome?_eq_some_iff] at hfound
    obtain ⟨before, x, after, rfl, hv, hbefore⟩ := hfound
    have hfirst := h x (List.mem_append_right _ List.mem_cons_self)
    rw [hv] at hfirst
    obtain ⟨path, hpath⟩ := hfirst
    have hx : (before ++ x :: after)[before.length]? = some x := by simp
    refine ⟨before.length :: path, ⟨x, hx, hpath.here⟩, ?_⟩
    rintro (_ | ⟨i, p⟩) hp w hw
    · exact hw
    · obtain ⟨y, hy, hw⟩ := hw
      rcases List.cons_lt_cons_iff.mp hp with hi | ⟨rfl, hlt⟩
      · -- a document before the one that answers has nothing
        rw [List.getElem?_append_left hi] at hy
        have hmem : y ∈ before := List.mem_of_getElem? hy
        exact not_holds_of_eq_none h (List.mem_append_left _ hmem) (hbefore y hmem) p w hw
      · obtain rfl := Option.some.inj (hx.symm.trans hy)
        exact hpath.before p hlt w hw

/-- There is a first value in a list of documents if there is one in each of them. -/
theorem exists_isFirst_within (h : ∀ x ∈ xs, ∃ r, IsFirst (holds x) r) :
    ∃ r, IsFirst (Within holds xs) r := by
  choose! find hfind using h
  exact ⟨_, isFirst_findSome? hfind⟩

end Within

/-! ## Names that are there once -/

/-- No object of a document has a name twice. -/
def NamesApart (root : Value) : Prop :=
  ∀ path entries, at? root path = some (.dict entries) → (OrderedMap.mk entries).DistinctKeys

/-- Names are apart if they are so on the outside and in all that is held. -/
lemma namesApart_of_children {v : Value}
    (hv : ∀ entries, v = .dict entries → (OrderedMap.mk entries).DistinctKeys)
    (h : ∀ c ∈ children v, NamesApart c) : NamesApart v := by
  rintro (_ | ⟨i, path⟩) entries hat
  · exact hv entries (Option.some.inj hat)
  · obtain ⟨c, hc, hat⟩ := at?_cons_eq_some_iff.mp hat
    exact h c (List.mem_of_getElem? hc) path entries hat

/-- What is held by a document has its names apart if the document has. -/
lemma NamesApart.child {v c : Value} (h : NamesApart v) (hc : c ∈ children v) :
    NamesApart c := by
  intro path entries hat
  obtain ⟨i, hi⟩ := List.mem_iff_getElem?.mp hc
  exact h (i :: path) entries (at?_cons_eq_some_iff.mpr ⟨c, hi, hat⟩)

/-- **In a document whose names are apart, an object stores its entries.** -/
theorem NamesApart.lookup_eq_some_iff {root : Value} (h : NamesApart root) {path : List Nat}
    {entries : List (Value × Value)} (hat : at? root path = some (.dict entries)) {name : String}
    {v : Value} :
    OrderedMap.lookup (.text name) entries = some v ↔ (.text name, v) ∈ entries := by
  constructor
  · intro hlookup
    obtain ⟨k, hk, hmem⟩ := OrderedMap.exists_mem_of_find? (m := ⟨entries⟩) hlookup
    rwa [Value.beq_text_iff.mp hk] at hmem
  · exact OrderedMap.find?_of_mem (h path entries hat) (Value.beq_text_iff.mpr rfl)

/-- Storing a value under a name keeps names apart. -/
lemma NamesApart.insert {m : OrderedMap Value Value} (h : NamesApart (.dict m.entries))
    {v : Value} (hv : NamesApart v) (k : Value) : NamesApart (.dict (m.insert k v).entries) := by
  have hkeys : m.DistinctKeys := h [] m.entries rfl
  refine namesApart_of_children (fun entries hentries => ?_) fun c hc => ?_
  · obtain rfl := Value.dict.inj hentries
    exact OrderedMap.distinctKeys_insert hkeys k v
  · obtain ⟨e, he, rfl⟩ := List.mem_map.mp hc
    rcases OrderedMap.mem_entries_insert he with heq | hmem
    · rwa [heq]
    · exact h.child (List.mem_map_of_mem hmem)

end SeriesClient.Json
