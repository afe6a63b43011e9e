import SeriesClient.Json.Reader
import SeriesClient.Proofs.Json.Places

set_option relaxedAutoImplicit false
set_option autoImplicit false

/-!
# The names in what is read

Of a name that occurs twice in an object the last value counts, so no object of a document that has
been read has a name twice. The reader keeps to this with each token.

## Main definitions

* `SeriesClient.Json.State.IsSound` — what is open in the reader has no name twice.

## Main results

* `SeriesClient.Json.State.IsSound.step`, `SeriesClient.Json.State.IsSound.foldlM` — what a token
  and a run over tokens preserve.
* `SeriesClient.Json.isSound_of_mem_tokens?` — tokens stand for scalars.
* `SeriesClient.Json.namesApart_of_parse?` — no object of a document that is read has a name twice.
-/

namespace SeriesClient.Json

/-! ## Scalars -/

/-- What is neither an object nor an array. -/
def IsScalar (v : Value) : Prop := (∀ entries, v ≠ .dict entries) ∧ ∀ xs, v ≠ .list xs

/-- A scalar holds nothing. -/
lemma IsScalar.children_eq_nil {v : Value} (h : IsScalar v) : children v = [] := by
  unfold children
  split
  · next entries => exact absurd rfl (h.1 entries)
  · next xs => exact absurd rfl (h.2 xs)
  · rfl

/-- A scalar has no names. -/
lemma IsScalar.namesApart {v : Value} (h : IsScalar v) : NamesApart v := by
  refine namesApart_of_children (fun entries hv => absurd hv (h.1 entries)) ?_
  rw [h.children_eq_nil]
  exact nofun

/-! ## The machine -/

/-- A token that stands for a value stands for a scalar. -/
def Token.IsSound : Token → Prop
  | .scalar v => IsScalar v
  | _ => True

/-- The names in what is open are apart. -/
def Frame.IsSound : Frame → Prop
  | .array items => ∀ x ∈ items, NamesApart x
  | .object entries _ => NamesApart (.dict entries.entries)

/-- The names in what is open, and in the document once it is complete, are apart. -/
structure State.IsSound (s : State) : Prop where
  /-- This is so for all that is open. -/
  frames : ∀ f ∈ s.frames, f.IsSound
  /-- This is so for the document. -/
  result : ∀ v, s.result = some v → NamesApart v

section Machine

variable {s s' : State}

/-- A complete value goes to its place. -/
lemma State.IsSound.put (h : s.IsSound) {v : Value} (hv : NamesApart v) : (s.put v).IsSound := by
  unfold State.put
  split
  · refine ⟨h.frames, fun w hw => ?_⟩
    obtain rfl := Option.some.inj hw
    exact hv
  · next items rest hframes =>
    have hold := h.frames
    rw [hframes, List.forall_mem_cons] at hold
    exact ⟨List.forall_mem_cons.mpr ⟨List.forall_mem_cons.mpr ⟨hv, hold.1⟩, hold.2⟩, h.result⟩
  · next entries name rest hframes =>
    have hold := h.frames
    rw [hframes, List.forall_mem_cons] at hold
    exact ⟨List.forall_mem_cons.mpr ⟨NamesApart.insert hold.1 hv name, hold.2⟩, h.result⟩

/-- What is closed goes to its place. -/
lemma State.IsSound.close (h : s.IsSound) : s.close.IsSound := by
  unfold State.close
  split
  · next items rest hframes =>
    have hold := h.frames
    rw [hframes, List.forall_mem_cons] at hold
    have hrest : State.IsSound { s with frames := rest } := ⟨hold.2, h.result⟩
    have hlist : NamesApart (.list items.reverse) :=
      namesApart_of_children nofun fun c hc => hold.1 c (List.mem_reverse.mp hc)
    exact hrest.put hlist
  · next entries name rest hframes =>
    have hold := h.frames
    rw [hframes, List.forall_mem_cons] at hold
    have hrest : State.IsSound { s with frames := rest } := ⟨hold.2, h.result⟩
    exact hrest.put hold.1
  · exact h

/-- **A token keeps names apart.** -/
theorem State.IsSound.step (h : s.IsSound) {t : Token} (ht : t.IsSound)
    (hstep : s.step t = some s') : s'.IsSound := by
  have hopen : ∀ f : Frame, f.IsSound → ∀ e, State.IsSound ⟨f :: s.frames, e, s.result⟩ :=
    fun f hf e => ⟨List.forall_mem_cons.mpr ⟨hf, h.frames⟩, h.result⟩
  have hexpect : ∀ e, State.IsSound { s with expect := e } := fun e => ⟨h.frames, h.result⟩
  have hempty : NamesApart (.dict []) := by
    refine namesApart_of_children (fun entries hentries => ?_) nofun
    obtain rfl := Value.dict.inj hentries
    exact List.Pairwise.nil
  unfold State.step at hstep
  split at hstep
  -- where a value may come, something is opened, put in its place or closed
  · obtain rfl := Option.some.inj hstep
    exact hopen (.array []) nofun _
  · obtain rfl := Option.some.inj hstep
    exact hopen (.object .empty .null) hempty _
  · obtain rfl := Option.some.inj hstep
    exact h.put ht.namesApart
  · obtain rfl := Option.some.inj hstep
    exact h.close
  -- a name replaces the one before it, or the object is closed
  · split at hstep
    · next entries name rest hframes =>
      obtain rfl := Option.some.inj hstep
      have hold := h.frames
      rw [hframes, List.forall_mem_cons] at hold
      exact ⟨List.forall_mem_cons.mpr ⟨hold.1, hold.2⟩, h.result⟩
    · nomatch hstep
  · obtain rfl := Option.some.inj hstep
    exact h.close
  -- colons and commas only change what may come
  · obtain rfl := Option.some.inj hstep
    exact hexpect _
  · split at hstep
    · obtain rfl := Option.some.inj hstep
      exact hexpect _
    · obtain rfl := Option.some.inj hstep
      exact hexpect _
    · nomatch hstep
  -- an array or an object is closed behind its last item
  · split at hstep
    · obtain rfl := Option.some.inj hstep
      exact h.close
    · nomatch hstep
  · split at hstep
    · obtain rfl := Option.some.inj hstep
      exact h.close
    · nomatch hstep
  · nomatch hstep

end Machine

/-! ## The tokens of a text -/

/-- A literal stands for a scalar. -/
lemma isScalar_of_literal? {cs rest : List Char} {v : Value}
    (h : literal? cs = some (v, rest)) : IsScalar v := by
  obtain ⟨l, hfind, heq⟩ := Option.map_eq_some_iff.mp h
  obtain ⟨rfl, -⟩ := Prod.mk.inj heq
  have hliterals : ∀ l ∈ literals, IsScalar l.2 := by
    simp [literals, IsScalar]
  exact hliterals l (List.mem_of_find?_eq_some hfind)

/-- A number is a scalar. -/
lemma isScalar_of_number? {cs rest : List Char} {v : Value}
    (h : number? cs = some (v, rest)) : IsScalar v := by
  unfold number? at h
  dsimp only at h
  -- the number is cut in the same way with a sign and without
  split at h
  all_goals
    split at h
    · nomatch h
    · split at h
      · obtain ⟨n, -, heq⟩ := Option.map_eq_some_iff.mp h
        obtain ⟨rfl, -⟩ := Prod.mk.inj heq
        exact ⟨nofun, nofun⟩
      · obtain ⟨x, -, heq⟩ := Option.map_eq_some_iff.mp h
        obtain ⟨rfl, -⟩ := Prod.mk.inj heq
        exact ⟨nofun, nofun⟩

/-- A token that is read stands for a scalar, if it stands for a value. -/
lemma isSound_of_token? {cs rest : List Char} {t : Token} (h : token? cs = some (t, rest)) :
    t.IsSound := by
  unfold token? at h
  split at h
  iterate 6
    obtain ⟨rfl, -⟩ := Prod.mk.inj (Option.some.inj h)
    trivial
  · obtain ⟨s, -, heq⟩ := Option.map_eq_some_iff.mp h
    obtain ⟨rfl, -⟩ := Prod.mk.inj heq
    exact ⟨nofun, nofun⟩
  · split at h
    · next v after hliteral =>
      obtain ⟨rfl, -⟩ := Prod.mk.inj (Option.some.inj h)
      exact isScalar_of_literal? hliteral
    · obtain ⟨⟨v, after⟩, hnumber, heq⟩ := Option.map_eq_some_iff.mp h
      obtain ⟨rfl, -⟩ := Prod.mk.inj heq
      exact isScalar_of_number? hnumber

/-- All tokens of a text that stand for values stand for scalars. -/
theorem isSound_of_mem_tokens? {fuel : Nat} {cs : List Char} {ts : List Token}
    (h : tokens? fuel cs = some ts) {t : Token} (ht : t ∈ ts) : t.IsSound := by
  induction fuel generalizing cs ts with
  | zero =>
    obtain rfl := Option.some.inj h
    nomatch ht
  | succ fuel ih =>
    unfold tokens? at h
    split at h
    · obtain rfl := Option.some.inj h
      nomatch ht
    · split at h
      · nomatch h
      · next first rest hfirst =>
        obtain ⟨others, hothers, rfl⟩ := Option.map_eq_some_iff.mp h
        rcases List.mem_cons.mp ht with rfl | ht
        · exact isSound_of_token? hfirst
        · exact ih hothers ht

/-! ## Documents -/

/-- A run over tokens keeps names apart. -/
theorem State.IsSound.foldlM {ts : List Token} (hts : ∀ t ∈ ts, t.IsSound) {s s' : State}
    (h : s.IsSound) (hrun : ts.foldlM State.step s = some s') : s'.IsSound := by
  induction ts generalizing s with
  | nil =>
    obtain rfl := Option.some.inj hrun
    exact h
  | cons t ts ih =>
    rw [List.forall_mem_cons] at hts
    rw [List.foldlM_cons] at hrun
    obtain ⟨next, hstep, hrun⟩ := Option.bind_eq_some_iff.mp hrun
    exact ih hts.2 (h.step hts.1 hstep) hrun

/-- **No object of a document that is read has a name twice.** -/
theorem namesApart_of_parse? {cs : List Char} {root : Value} (h : parse? cs = some root) :
    NamesApart root := by
  obtain ⟨ts, hts, hread⟩ := Option.bind_eq_some_iff.mp h
  unfold ofTokens? at hread
  split at hread
  · next s hrun =>
    have hstart : State.IsSound ⟨[], .value false, none⟩ := ⟨nofun, nofun⟩
    have hend := hstart.foldlM (fun t => isSound_of_mem_tokens? hts) hrun
    split at hread
    · exact hend.result root hread
    · nomatch hread
  · nomatch hread

end SeriesClient.Json
