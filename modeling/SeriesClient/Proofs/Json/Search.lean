import SeriesClient.Json.Search
import SeriesClient.Proofs.Json.Documents
import SeriesClient.Proofs.Json.Reading

set_option relaxedAutoImplicit false
set_option autoImplicit false

/-!
# What a search finds

A search for a name goes through a document from the outside to the inside, and finds the first
value that is stored under the name. An absent value counts as not found, but the object that stores
it is not searched further. So of the values that are there, those in such an object are hidden from
the search, and it finds the first one that is not hidden.

## Main definitions

* `SeriesClient.Json.Stores`, `SeriesClient.Json.Holds` — what the objects of a document store under
  a name, and what of it is there.
* `SeriesClient.Json.IsHidden`, `SeriesClient.Json.Shows` — which places a search does not reach,
  and what it can find at the others.

## Main results

* `SeriesClient.Json.isFirst_find?`, `SeriesClient.Json.find?_eq_iff` — a search finds the first
  value that is not hidden.
* `SeriesClient.Json.isFirst_holds_find?_iff` — when this is the first value of all.
* `SeriesClient.Json.search_firstShown` — both, with what it means that an object of a document that
  was read stores a value.

## Design

What a document stores is a relation between places and values. It says nothing about a search, and
the order of what is found is the order of places.
-/

namespace SeriesClient.Json

/-! ## What is stored -/

/-- What an object stores under a name. -/
def stored? (key : Value) : Value → Option Value
  | .dict entries => OrderedMap.lookup key entries
  | _ => none

/-- Nothing but an object stores something. -/
lemma stored?_eq_some_iff {key v w : Value} :
    stored? key v = some w ↔
      ∃ entries, v = .dict entries ∧ OrderedMap.lookup key entries = some w := by
  constructor
  · intro h
    unfold stored? at h
    split at h
    · next entries => exact ⟨entries, rfl, h⟩
    · nomatch h
  · rintro ⟨entries, rfl, h⟩
    exact h

/-- The object at a place of a document stores a value under a name. -/
def Stores (key root : Value) (path : List Nat) (v : Value) : Prop :=
  ∃ object, at? root path = some object ∧ stored? key object = some v

/-- The object at a place stores a value under a name, and this value is not absent. -/
structure Holds (key root : Value) (path : List Nat) (v : Value) : Prop where
  /-- It stores the value. -/
  stores : Stores key root path v
  /-- The value is there. -/
  ne_null : v ≠ .null

/-- A place is hidden if an object around it stores an absent value under the name. -/
def IsHidden (key root : Value) (path : List Nat) : Prop :=
  ∃ outer, outer <+: path ∧ outer ≠ path ∧ Stores key root outer .null

/-- The object at a place holds a value under a name, and the place is not hidden. -/
structure Shows (key root : Value) (path : List Nat) (v : Value) : Prop where
  /-- The object holds the value. -/
  holds : Holds key root path v
  /-- No object around it hides it. -/
  not_hidden : ¬ IsHidden key root path

section Places

variable {key root : Value} {i : Nat} {path : List Nat} {v w : Value}

/-- What the document as a whole stores. -/
lemma stores_nil_iff : Stores key root [] v ↔ stored? key root = some v :=
  ⟨fun ⟨_, hat, hstored⟩ => Option.some.inj hat ▸ hstored, fun h => ⟨root, rfl, h⟩⟩

/-- What is stored further inside is stored in one of the children. -/
lemma stores_cons_iff :
    Stores key root (i :: path) v ↔ ∃ c, (children root)[i]? = some c ∧ Stores key c path v := by
  constructor
  · rintro ⟨object, hat, hstored⟩
    obtain ⟨c, hc, hat⟩ := at?_cons_eq_some_iff.mp hat
    exact ⟨c, hc, object, hat, hstored⟩
  · rintro ⟨c, hc, object, hat, hstored⟩
    exact ⟨object, at?_cons_eq_some_iff.mpr ⟨c, hc, hat⟩, hstored⟩

/-- At each place at most one value is stored. -/
lemma Stores.eq (h : Stores key root path v) (h' : Stores key root path w) : v = w := by
  obtain ⟨object, hat, hv⟩ := h
  obtain ⟨object', hat', hw⟩ := h'
  obtain rfl := Option.some.inj (hat.symm.trans hat')
  exact Option.some.inj (hv.symm.trans hw)

/-- What is held further inside is held in one of the children. -/
lemma holds_cons_iff :
    Holds key root (i :: path) v ↔ ∃ c, (children root)[i]? = some c ∧ Holds key c path v := by
  constructor
  · rintro ⟨hstores, hne⟩
    obtain ⟨c, hc, hstores⟩ := stores_cons_iff.mp hstores
    exact ⟨c, hc, hstores, hne⟩
  · rintro ⟨c, hc, hstores, hne⟩
    exact ⟨stores_cons_iff.mpr ⟨c, hc, hstores⟩, hne⟩

/-- Nothing is around the document as a whole. -/
lemma not_isHidden_nil : ¬ IsHidden key root [] := by
  rintro ⟨outer, houter, hne, -⟩
  exact hne (List.prefix_nil.mp houter)

/-- A place further inside is hidden by the document as a whole, or in one of the children. -/
lemma isHidden_cons_iff :
    IsHidden key root (i :: path) ↔
      stored? key root = some .null ∨ ∃ c, (children root)[i]? = some c ∧ IsHidden key c path := by
  constructor
  · rintro ⟨outer, houter, hne, hstores⟩
    rcases List.prefix_cons_iff.mp houter with rfl | ⟨outer, rfl, hinner⟩
    · exact .inl (stores_nil_iff.mp hstores)
    · obtain ⟨c, hc, hstores⟩ := stores_cons_iff.mp hstores
      exact .inr ⟨c, hc, outer, hinner, fun heq => hne (congrArg (i :: ·) heq), hstores⟩
  · rintro (hnull | ⟨c, hc, outer, houter, hne, hstores⟩)
    · exact ⟨[], List.nil_prefix, nofun, stores_nil_iff.mpr hnull⟩
    · refine ⟨i :: outer, List.cons_prefix_cons.mpr ⟨rfl, houter⟩, ?_, ?_⟩
      · exact fun heq => hne (List.cons.inj heq).2
      · exact stores_cons_iff.mpr ⟨c, hc, hstores⟩

/-- What is shown further inside is shown in one of the children, unless the document as a whole
hides it. -/
lemma shows_cons_iff :
    Shows key root (i :: path) v ↔
      stored? key root ≠ some .null ∧ ∃ c, (children root)[i]? = some c ∧ Shows key c path v := by
  constructor
  · rintro ⟨hholds, hhidden⟩
    rw [isHidden_cons_iff, not_or] at hhidden
    obtain ⟨c, hc, hholds⟩ := holds_cons_iff.mp hholds
    exact ⟨hhidden.1, c, hc, hholds, fun h => hhidden.2 ⟨c, hc, h⟩⟩
  · rintro ⟨hstored, c, hc, hholds, hhidden⟩
    refine ⟨holds_cons_iff.mpr ⟨c, hc, hholds⟩, fun h => ?_⟩
    rcases isHidden_cons_iff.mp h with hnull | ⟨c', hc', h⟩
    · exact hstored hnull
    · obtain rfl := Option.some.inj (hc.symm.trans hc')
      exact hhidden h

end Places

/-! ## The search -/

section Find

variable {key : Value}

/-- A search through items finds what the first of them has. -/
lemma findItem?_eq (xs : List Value) : findItem? key xs = xs.findSome? (find? key) := by
  induction xs with
  | nil => rfl
  | cons x xs ih =>
    rw [findItem?, List.findSome?_cons, ih]
    cases find? key x <;> rfl

/-- A search through entries finds what the first of their values has. -/
lemma findValue?_eq (entries : List (Value × Value)) :
    findValue? key entries = (entries.map Prod.snd).findSome? (find? key) := by
  induction entries with
  | nil => rfl
  | cons e entries ih =>
    rw [findValue?, List.map_cons, List.findSome?_cons, ih]
    cases find? key e.2 <;> rfl

/-- An object that stores an absent value is not searched. -/
lemma find?_of_stored_null {v : Value} (h : stored? key v = some .null) : find? key v = none := by
  obtain ⟨entries, rfl, hlookup⟩ := stored?_eq_some_iff.mp h
  rw [find?, hlookup]

/-- An object that stores a value under the name has what is searched. -/
lemma find?_of_stored {v w : Value} (h : stored? key v = some w) (hw : w ≠ .null) :
    find? key v = some w := by
  obtain ⟨entries, rfl, hlookup⟩ := stored?_eq_some_iff.mp h
  rw [find?, hlookup]
  split
  · next hnull => exact absurd (Option.some.inj hnull) hw
  · next hsome => exact hsome.symm
  · next hnone => exact absurd hnone (Option.some_ne_none w)

/-- Without an entry under the name, what is held is searched in order. -/
lemma find?_of_not_stored {v : Value} (h : stored? key v = none) :
    find? key v = (children v).findSome? (find? key) := by
  cases v with
  | dict entries =>
    rw [stored?] at h
    rw [find?, h]
    exact findValue?_eq entries
  | list xs =>
    rw [find?]
    exact findItem?_eq xs
  | _ => simp only [find?, children, List.findSome?_nil]

/-- **A search finds the first value that is not hidden**, and nothing if there is none. -/
theorem isFirst_find? (root : Value) : IsFirst (Shows key root) (find? key root) := by
  induction root using induction_children with
  | node root ih =>
    rcases hstored : stored? key root with _ | w
    · -- nothing is stored on the outside, so the children are searched
      rw [find?_of_not_stored hstored]
      refine (isFirst_findSome? ih).congr fun path v => ?_
      cases path with
      | nil =>
        refine iff_of_false id fun h => ?_
        rw [stores_nil_iff.mp h.holds.stores] at hstored
        nomatch hstored
      | cons i path =>
        rw [shows_cons_iff, hstored]
        exact (and_iff_right nofun).symm
    · by_cases hw : w = .null
      · -- an absent value hides all that is held
        subst hw
        rw [find?_of_stored_null hstored]
        intro path v h
        cases path with
        | nil =>
          have hv := stores_nil_iff.mp h.holds.stores
          exact h.holds.ne_null (Option.some.inj (hv.symm.trans hstored))
        | cons i path => exact (shows_cons_iff.mp h).1 hstored
      · rw [find?_of_stored hstored hw]
        exact ⟨[], firstAt_nil ⟨⟨stores_nil_iff.mpr hstored, hw⟩, not_isHidden_nil⟩⟩

/-- Among what is held by a document there is a first value, unless nothing is held. -/
lemma exists_isFirst_holds (key root : Value) : ∃ r, IsFirst (Holds key root) r := by
  induction root using induction_children with
  | node root ih =>
    by_cases houtside : ∃ w, Holds key root [] w
    · obtain ⟨w, hw⟩ := houtside
      exact ⟨some w, [], firstAt_nil hw⟩
    · obtain ⟨r, hr⟩ := exists_isFirst_within ih
      refine ⟨r, hr.congr fun path v => ?_⟩
      cases path with
      | nil => exact iff_of_false id fun h => houtside ⟨v, h⟩
      | cons i path => exact holds_cons_iff.symm

variable {root : Value}

/-- **What a search finds** is the first value that is not hidden, and nothing else. -/
theorem find?_eq_iff {r : Option Value} : find? key root = r ↔ IsFirst (Shows key root) r := by
  constructor
  · rintro rfl
    exact isFirst_find? root
  · exact fun h => (isFirst_find? root).eq h fun _ _ _ hv hw =>
      hv.holds.stores.eq hw.holds.stores

/-- The first value of all is found unless it is hidden. -/
lemma find?_of_firstAt {path : List Nat} {v : Value} (h : FirstAt (Holds key root) path v)
    (hhidden : ¬ IsHidden key root path) : find? key root = some v :=
  find?_eq_iff.mpr ⟨path, ⟨h.here, hhidden⟩, fun p hp w hw => h.before p hp w hw.holds⟩

/-- **When a search finds the first value of all**: if that is hidden, the first one that is not
hidden has to be the same. -/
theorem isFirst_holds_find?_iff :
    IsFirst (Holds key root) (find? key root) ↔
      ∀ path v, FirstAt (Holds key root) path v → IsHidden key root path →
        ∃ path', FirstAt (Shows key root) path' v := by
  constructor
  · intro hfirst path v h _
    have hone : find? key root = some v :=
      hfirst.eq ⟨path, h⟩ fun _ _ _ hv hw => hv.stores.eq hw.stores
    exact find?_eq_iff.mp hone
  · intro h
    obtain ⟨r, hr⟩ := exists_isFirst_holds key root
    cases r with
    | none =>
      have hnone : find? key root = none := find?_eq_iff.mpr fun path v hv => hr path v hv.holds
      rwa [hnone]
    | some v =>
      obtain ⟨path, hpath⟩ := hr
      have hsome : find? key root = some v := by
        by_cases hhidden : IsHidden key root path
        · exact find?_eq_iff.mpr (h path v hpath hhidden)
        · exact find?_of_firstAt hpath hhidden
      rw [hsome]
      exact ⟨path, hpath⟩

end Find

/-- What an object of a document that was read stores under a name is its entry of this name. -/
lemma stores_iff_of_parse? {text : List Char} {root : Value} (h : parse? text = some root)
    {name : String} {path : List Nat} {v : Value} :
    Stores (.text name) root path v ↔
      ∃ entries, at? root path = some (.dict entries) ∧ (.text name, v) ∈ entries := by
  have happart := namesApart_of_parse? h
  constructor
  · rintro ⟨object, hat, hstored⟩
    obtain ⟨entries, rfl, hlookup⟩ := stored?_eq_some_iff.mp hstored
    exact ⟨entries, hat, (happart.lookup_eq_some_iff hat).mp hlookup⟩
  · rintro ⟨entries, hat, hmem⟩
    exact ⟨.dict entries, hat, (happart.lookup_eq_some_iff hat).mpr hmem⟩

/-- **What a search finds in a document.** It finds the first value under the name that is not
hidden by an absent one in an object around it, and nothing if there is none. This is the first
value of all, and nothing only if there is none at all, unless the first value is hidden and the
first one that is not hidden differs from it. In a document that was read, an object stores the
values of its entries. -/
theorem search_firstShown (key root : Value) :
    (∀ r, find? key root = r ↔ IsFirst (Shows key root) r) ∧
    (IsFirst (Holds key root) (find? key root) ↔
      ∀ path v, FirstAt (Holds key root) path v → IsHidden key root path →
        ∃ path', FirstAt (Shows key root) path' v) ∧
    (∀ text, parse? text = some root → ∀ name path v,
      Stores (.text name) root path v ↔
        ∃ entries, at? root path = some (.dict entries) ∧ (.text name, v) ∈ entries) :=
  ⟨fun _ => find?_eq_iff, isFirst_holds_find?_iff, fun _ h _ _ _ => stores_iff_of_parse? h⟩

/-- A document with an absent message, and with a message in what it holds besides. -/
def absentMessage : Value :=
  .dict [(.text "message", .null), (.text "detail", .dict [(.text "message", .text "deep")])]

/-- A text that is read as this document. -/
lemma parse?_absentMessage :
    parse? "\x7b\"message\": null, \"detail\": \x7b\"message\": \"deep\"\x7d\x7d".toList =
      some absentMessage := by
  have hnull : Spells ['n', 'u', 'l', 'l'] .null :=
    spells_of_token (by simp) rfl fun _ _ => rfl
  have hmessage : SpellsEntry (quoted "message".toList ++ [':', ' ', 'n', 'u', 'l', 'l'])
      ("message", .null) := ⟨_, rfl, hnull⟩
  have hdeep : SpellsEntry (quoted "message".toList ++ ':' :: ' ' :: quoted "deep".toList)
      ("message", .text "deep") := ⟨_, rfl, spells_quoted "deep"⟩
  have hdetail : SpellsEntry _ ("detail", _) := ⟨_, rfl, spells_object (.cons hdeep .nil)⟩
  exact (spells_object (.cons hmessage (.cons hdetail .nil))).parse?_eq

/-- The only message of a document is not found if it is hidden. -/
theorem not_first_absentMessage :
    parse? "\x7b\"message\": null, \"detail\": \x7b\"message\": \"deep\"\x7d\x7d".toList =
        some absentMessage ∧
      find? (.text "message") absentMessage = none ∧
      FirstAt (Holds (.text "message") absentMessage) [1] (.text "deep") ∧
      ¬ IsFirst (Holds (.text "message") absentMessage)
        (find? (.text "message") absentMessage) := by
  have hnone : find? (.text "message") absentMessage = none := rfl
  have hdeep : Holds (.text "message") absentMessage [1] (.text "deep") := ⟨⟨_, rfl, rfl⟩, nofun⟩
  refine ⟨parse?_absentMessage, hnone, ⟨hdeep, ?_⟩, fun h => ?_⟩
  · rintro (_ | ⟨i, p⟩) hp w ⟨hstores, hne⟩
    · -- the object on the outside stores an absent message
      have hstored : stored? (.text "message") absentMessage = some .null := rfl
      exact hne (Option.some.inj ((stores_nil_iff.mp hstores).symm.trans hstored))
    · obtain ⟨c, hc, hstores⟩ := stores_cons_iff.mp hstores
      rcases List.cons_lt_cons_iff.mp hp with hi | ⟨-, hlt⟩
      · -- the absent message itself stores nothing
        obtain rfl : i = 0 := Nat.lt_one_iff.mp hi
        obtain rfl : .null = c := Option.some.inj hc
        cases p with
        | nil => nomatch stores_nil_iff.mp hstores
        | cons j p =>
          obtain ⟨c, hc, -⟩ := stores_cons_iff.mp hstores
          nomatch hc
      · exact List.not_lt_nil p hlt
  · rw [hnone] at h
    exact h [1] (.text "deep") hdeep

end SeriesClient.Json
