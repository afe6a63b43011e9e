import Mathlib.Data.List.Forall2

set_option relaxedAutoImplicit false
set_option autoImplicit false

/-!
# Results and records

How a computation that succeeded is taken apart, how one over a list is put together from its
items, and how a state is kept together with a record of what was done.

## Main definitions

* `SeriesClient.Recorded` — a state with a record.
* `SeriesClient.errorOf?` — the error that a computation ends with.

## Main results

* `SeriesClient.bind_eq_ok_iff`, `SeriesClient.cases_of_bind_eq_error` — a sequence succeeds when
  both of its parts do, and fails in one of them.
* `SeriesClient.exists_mapM_eq_ok` — a list is processed when each of its items is.
* `SeriesClient.forall₂_of_mapM_eq_ok`, `SeriesClient.exists_of_mapM_eq_error` — what it means
  for the items that a list was, or was not, processed.
* `SeriesClient.errorOf?_mapM` — the first item that cannot be processed counts.
-/

namespace SeriesClient

/-- A state with a record of what was done. -/
structure Recorded (ω ρ : Type) where
  /-- The state. -/
  world : ω
  /-- What was done, in order. -/
  records : List ρ

variable {ε α β γ : Type}

/-- A sequence of two computations succeeds when both of them do. -/
theorem bind_eq_ok_iff {x : Except ε α} {f : α → Except ε β} {b : β} :
    x >>= f = .ok b ↔ ∃ a, x = .ok a ∧ f a = .ok b := by
  cases x with
  | error e =>
    constructor
    · rintro ⟨⟩
    · rintro ⟨_, ⟨⟩, _⟩
  | ok a =>
    constructor
    · exact fun h => ⟨a, rfl, h⟩
    · rintro ⟨_, ⟨⟩, h⟩
      exact h

/-- A sequence of two computations fails in the first of them, or in the second after it. -/
theorem cases_of_bind_eq_error {x : Except ε α} {f : α → Except ε β} {e : ε}
    (h : x >>= f = .error e) : x = .error e ∨ ∃ a, x = .ok a ∧ f a = .error e := by
  cases x with
  | error e' =>
    obtain rfl := Except.error.inj h
    exact .inl rfl
  | ok a => exact .inr ⟨a, rfl, h⟩

/-- What is done to a result afterwards does not make it fail. -/
lemma map_eq_error_iff {x : Except ε α} {f : α → β} {e : ε} :
    x.map f = .error e ↔ x = .error e := by
  cases x with
  | error e' => simp [Except.map]
  | ok a => simp [Except.map]

/-- If each item of a list is processed to something that a third thing stands for, so is the
list, and the third things stand for it item by item. -/
theorem exists_mapM_eq_ok {f : α → Except ε β} {P : α → γ → Prop} {Q : β → γ → Prop} {l : List α}
    (h : ∀ a ∈ l, ∃ b c, f a = .ok b ∧ P a c ∧ Q b c) :
    ∃ bs cs, l.mapM f = .ok bs ∧ List.Forall₂ P l cs ∧ List.Forall₂ Q bs cs := by
  induction l with
  | nil => exact ⟨[], [], rfl, .nil, .nil⟩
  | cons a l ih =>
    obtain ⟨b, c, hb, hP, hQ⟩ := h a List.mem_cons_self
    obtain ⟨bs, cs, hbs, hPs, hQs⟩ := ih fun a' ha' => h a' (List.mem_cons_of_mem _ ha')
    refine ⟨b :: bs, c :: cs, ?_, .cons hP hPs, .cons hQ hQs⟩
    rw [List.mapM_cons, hb, hbs]
    rfl

/-- A list is processed if each of its items is. -/
lemma exists_mapM {f : α → Except ε β} {l : List α} (h : ∀ a ∈ l, ∃ b, f a = .ok b) :
    ∃ bs, l.mapM f = .ok bs := by
  obtain ⟨bs, -, hbs, -, -⟩ := exists_mapM_eq_ok (P := fun _ (_ : Unit) => True)
    (Q := fun _ _ => True) fun a ha => by
      obtain ⟨b, hb⟩ := h a ha
      exact ⟨b, (), hb, trivial, trivial⟩
  exact ⟨bs, hbs⟩

/-- What holds of each item and what it is processed to holds of a list, item by item. -/
theorem forall₂_of_mapM_eq_ok {f : α → Except ε β} {P : α → β → Prop} {l : List α} {bs : List β}
    (hP : ∀ a ∈ l, ∀ b, f a = .ok b → P a b) (h : l.mapM f = .ok bs) : List.Forall₂ P l bs := by
  induction l generalizing bs with
  | nil =>
    obtain rfl := Except.ok.inj h
    exact .nil
  | cons a l ih =>
    rw [List.mapM_cons] at h
    obtain ⟨b, hb, h⟩ := bind_eq_ok_iff.mp h
    obtain ⟨bs', hbs', h⟩ := bind_eq_ok_iff.mp h
    obtain rfl := Except.ok.inj h
    exact .cons (hP a List.mem_cons_self b hb)
      (ih (fun a' ha' => hP a' (List.mem_cons_of_mem _ ha')) hbs')

/-- Each item of a list that stands for another one stands for an item of it. -/
lemma exists_mem_of_forall₂ {P : α → β → Prop} {l : List α} {bs : List β}
    (h : List.Forall₂ P l bs) : ∀ b ∈ bs, ∃ a ∈ l, P a b := by
  induction h with
  | nil => exact nofun
  | @cons a b l bs hP _ ih =>
    refine List.forall_mem_cons.mpr ⟨⟨a, List.mem_cons_self, hP⟩, fun b' hb' => ?_⟩
    obtain ⟨a', ha', hP'⟩ := ih b' hb'
    exact ⟨a', List.mem_cons_of_mem _ ha', hP'⟩

/-- If a list cannot be processed, one of its items cannot. -/
theorem exists_of_mapM_eq_error {f : α → Except ε β} {l : List α} {e : ε}
    (h : l.mapM f = .error e) : ∃ a ∈ l, f a = .error e := by
  induction l with
  | nil => nomatch h
  | cons a l ih =>
    rw [List.mapM_cons] at h
    rcases cases_of_bind_eq_error h with ha | ⟨b, -, hrest⟩
    · exact ⟨a, List.mem_cons_self, ha⟩
    · rcases cases_of_bind_eq_error hrest with hl | ⟨bs, -, hnone⟩
      · obtain ⟨a', ha', herror⟩ := ih hl
        exact ⟨a', List.mem_cons_of_mem _ ha', herror⟩
      · cases hnone

/-- The error that a computation ends with. -/
def errorOf? : Except ε β → Option ε
  | .error e => some e
  | .ok _ => none

/-- A computation ends with an error if it is that error. -/
lemma errorOf?_eq_some_iff {x : Except ε β} {e : ε} : errorOf? x = some e ↔ x = .error e := by
  cases x <;> simp [errorOf?]

/-- A list cannot be processed for the error of its first item that cannot. -/
theorem errorOf?_mapM (f : α → Except ε β) (l : List α) :
    errorOf? (l.mapM f) = l.findSome? fun a => errorOf? (f a) := by
  induction l with
  | nil => rfl
  | cons a l ih =>
    rw [List.mapM_cons, List.findSome?_cons, ← ih]
    rcases f a with e | b
    · rfl
    · rcases l.mapM f with e | bs <;> rfl

/-- Two lists are processed to the same if their items are, one by one. -/
lemma mapM_congr {f : α → Except ε γ} {g : β → Except ε γ} {l : List α} {l' : List β}
    (h : List.Forall₂ (fun a b => f a = g b) l l') : l.mapM f = l'.mapM g := by
  induction h with
  | nil => rfl
  | cons hab _ ih => rw [List.mapM_cons, List.mapM_cons, hab, ih]

/-- A list is processed item by item. -/
lemma mapM_eq_ok_of_forall₂ {f : α → Except ε β} {l : List α} {bs : List β}
    (h : List.Forall₂ (fun a b => f a = .ok b) l bs) : l.mapM f = .ok bs := by
  induction h with
  | nil => rfl
  | cons hab _ ih =>
    rw [List.mapM_cons, hab, ih]
    rfl

/-- What is done to each item afterwards does not matter to a list that cannot be processed. -/
lemma mapM_map_of_error {f : α → Except ε β} {g : α → β → γ} {l : List α} {e : ε}
    (h : l.mapM f = .error e) : l.mapM (fun a => (f a).map (g a)) = .error e := by
  induction l with
  | nil => nomatch h
  | cons a l ih =>
    rw [List.mapM_cons] at h ⊢
    rcases cases_of_bind_eq_error h with ha | ⟨b, ha, hrest⟩
    · rw [ha]
      rfl
    · rcases cases_of_bind_eq_error hrest with hl | ⟨bs, -, hnone⟩
      · rw [ha, ih hl]
        rfl
      · cases hnone

end SeriesClient
