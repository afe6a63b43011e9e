import SeriesClient.Proofs.Json.Tokens
import SeriesClient.Proofs.Result
import SeriesClient.Proofs.TextKeys

set_option relaxedAutoImplicit false
set_option autoImplicit false

/-!
# Documents that read back

What is written for a value is read as that value. Values are put together from others, and so are
the proofs that they are read back: each container has one lemma, whatever it holds.

## Main definitions

* `SeriesClient.Json.Scans` — how a text is cut into tokens.
* `SeriesClient.Json.Takes` — a text leads the reader from one state to another.
* `SeriesClient.Json.Spells` — a text is read as a value.
* `SeriesClient.Json.ReadsBack` — what is written for one value is read as another.

## Main results

* `SeriesClient.Json.tokens?_of_scans` — the tokens of a text.
* `SeriesClient.Json.spells_object` — an object is read as a dictionary of its entries.
* `SeriesClient.Json.ReadsBack.dict` — dictionaries with different texts as names are read back.
* `SeriesClient.Json.Spells.parse?_eq` — a text is read as the document that it spells.

## Design

How many tokens a text has does not matter to its neighbours, so the texts of two parts can be put
one after the other, as long as the second one does not go on with a number of the first.
-/

namespace SeriesClient.Json

/-! ## Cutting into tokens -/

/-- A text is cut into tokens, with some of it left. -/
inductive Scans (rest : List Char) : List Char → List Token → Prop where
  /-- Nothing is left to be cut. -/
  | done : Scans rest rest []
  /-- White space is dropped. -/
  | space {c : Char} {cs : List Char} {ts : List Token} (hc : isSpace c = true)
      (h : Scans rest cs ts) : Scans rest (c :: cs) ts
  /-- A token is taken from the front. -/
  | token {c : Char} {w cs : List Char} {t : Token} {ts : List Token} (hc : isSpace c = false)
      (htoken : token? (c :: w ++ cs) = some (t, cs)) (h : Scans rest cs ts) :
      Scans rest (c :: w ++ cs) (t :: ts)

/-- What is left is cut in its turn. -/
lemma Scans.trans {cs middle rest : List Char} {ts ts' : List Token} (h : Scans middle cs ts)
    (h' : Scans rest middle ts') : Scans rest cs (ts ++ ts') := by
  induction h with
  | done => exact h'
  | space hc _ ih => exact .space hc ih
  | token hc htoken _ ih => exact .token hc htoken ih

/-- There are no more tokens than characters. -/
lemma Scans.length_le {cs rest : List Char} {ts : List Token} (h : Scans rest cs ts) :
    ts.length ≤ cs.length := by
  induction h with
  | done => exact Nat.zero_le _
  | space _ _ ih => exact Nat.le_succ_of_le ih
  | token _ _ _ ih =>
    rw [List.length_cons, List.length_append, List.length_cons]
    omega

/-- **The tokens of a text.** -/
theorem tokens?_of_scans {cs : List Char} {ts : List Token} (h : Scans [] cs ts) {fuel : Nat}
    (hfuel : ts.length < fuel) : tokens? fuel cs = some ts := by
  induction h generalizing fuel with
  | done =>
    obtain ⟨fuel, rfl⟩ : ∃ k, fuel = k + 1 := ⟨fuel - 1, by omega⟩
    rfl
  | @space c cs ts hc _ ih =>
    rw [← ih hfuel]
    obtain ⟨fuel, rfl⟩ : ∃ k, fuel = k + 1 := ⟨fuel - 1, by omega⟩
    rw [tokens?, tokens?, List.dropWhile_cons_of_pos hc]
  | @token c w cs t ts hc htoken _ ih =>
    rw [List.length_cons] at hfuel
    obtain ⟨fuel, rfl⟩ : ∃ k, fuel = k + 1 := ⟨fuel - 1, by omega⟩
    have hdrop : (c :: w ++ cs).dropWhile isSpace = c :: (w ++ cs) :=
      List.dropWhile_cons_of_neg (by rw [hc]; exact Bool.false_ne_true)
    rw [tokens?, hdrop]
    dsimp only
    rw [← List.cons_append, htoken]
    dsimp only
    rw [ih (by omega)]
    rfl

/-! ## Leading the reader on -/

/-- A text leads the reader from one state to another, whatever follows that ends a number. -/
def Takes (cs : List Char) (s t : State) : Prop :=
  ∃ ts, (∀ rest, EndsNumber rest → Scans rest (cs ++ rest) ts) ∧ ts.foldlM State.step s = some t

variable {cs cs' : List Char} {s t u : State} {v : Value}

/-- What ends a number does so with anything behind it. -/
lemma EndsNumber.append {rest : List Char} (h : EndsNumber cs) (hrest : EndsNumber rest) :
    EndsNumber (cs ++ rest) := by
  cases cs with
  | nil => exact hrest
  | cons c cs => exact h

/-- A text that begins with a character that ends a number. -/
lemma endsNumber_cons {c : Char} (hc : c.isDigit = false ∧ c ≠ '.' ∧ c ≠ 'e' ∧ c ≠ 'E')
    (cs : List Char) : EndsNumber (c :: cs) := by
  intro d hd
  obtain rfl := Option.some.inj hd
  exact hc

/-- Nothing leads nowhere. -/
lemma Takes.refl (s : State) : Takes [] s s :=
  ⟨[], fun _ _ => .done, rfl⟩

/-- **Texts lead on one after the other.** -/
lemma Takes.append (h : Takes cs s t) (h' : Takes cs' t u) (hends : EndsNumber cs') :
    Takes (cs ++ cs') s u := by
  obtain ⟨ts, hscans, hstep⟩ := h
  obtain ⟨ts', hscans', hstep'⟩ := h'
  refine ⟨ts ++ ts', fun rest hrest => ?_, ?_⟩
  · rw [List.append_assoc]
    exact (hscans _ (hends.append hrest)).trans (hscans' rest hrest)
  · rw [List.foldlM_append, hstep]
    exact hstep'

/-- White space leads nowhere. -/
lemma Takes.space (h : Takes cs s t) : Takes (' ' :: cs) s t := by
  obtain ⟨ts, hscans, hstep⟩ := h
  exact ⟨ts, fun rest hrest => .space rfl (hscans rest hrest), hstep⟩

/-- A token leads on by a step. -/
lemma takes_token {c : Char} {w : List Char} {token : Token} (hc : isSpace c = false)
    (htoken : ∀ rest, EndsNumber rest → token? (c :: w ++ rest) = some (token, rest))
    (hstep : s.step token = some t) : Takes (c :: w) s t := by
  refine ⟨[token], fun rest hrest => .token hc (htoken rest hrest) .done, ?_⟩
  rw [List.foldlM_cons, hstep]
  rfl

/-! ## Values -/

/-- A text in ASCII is read as a value. -/
structure Spells (cs : List Char) (v : Value) : Prop where
  /-- All characters are in ASCII. -/
  ascii : ∀ c ∈ cs, c.toNat < 0x80
  /-- Where a value may come, it is taken in. -/
  takes : ∀ (s : State) (first : Bool), s.expect = .value first → Takes cs s (s.put v)

/-- **A text is read as the document that it spells.** -/
theorem Spells.parse?_eq (h : Spells cs v) : parse? cs = some v := by
  obtain ⟨ts, hscans, hstep⟩ := h.takes ⟨[], .value false, none⟩ false rfl
  have hcut := hscans [] nofun
  rw [List.append_nil] at hcut
  rw [parse?, tokens?_of_scans hcut (Nat.lt_succ_of_le hcut.length_le)]
  show ofTokens? ts = some v
  rw [ofTokens?, hstep]
  rfl

/-- A text that is one token is read as the value of the token. -/
lemma spells_of_token {c : Char} {w : List Char} (hascii : ∀ d ∈ c :: w, d.toNat < 0x80)
    (hc : isSpace c = false)
    (htoken : ∀ rest, EndsNumber rest → token? (c :: w ++ rest) = some (.scalar v, rest)) :
    Spells (c :: w) v := by
  refine ⟨hascii, fun s first hs => takes_token hc htoken ?_⟩
  simp only [State.step, hs]

/-- White space between tokens is white space. -/
lemma isSpace_of_isBlank {c : Char} (h : isBlank c = false) : isSpace c = false := by
  rw [Bool.eq_false_iff]
  intro hspace
  simp only [isSpace, Bool.or_eq_true, decide_eq_true_iff] at hspace
  rcases hspace with ((rfl | rfl) | rfl) | rfl <;> exact absurd h (by decide)

/-- **A text between quotes is read as the text.** -/
lemma spells_quoted (s : String) : Spells (quoted s.toList) (.text s) := by
  have hascii : ∀ d ∈ quoted s.toList, d.toNat < 0x80 := by
    intro d hd
    rcases List.mem_cons.mp hd with rfl | hd
    · decide
    · rcases List.mem_append.mp hd with hd | hd
      · obtain ⟨c, -, hd⟩ := List.mem_flatMap.mp hd
        exact toNat_lt_of_mem_escape hd
      · obtain rfl := List.mem_singleton.mp hd
        decide
  refine spells_of_token hascii rfl fun rest _ => ?_
  have htoken := token?_quoted s.toList rest
  rwa [String.ofList_toList] at htoken

/-- A numeral that is read as a value is the whole text of the value. -/
lemma spells_numeral {n : Numeral} {negative : Bool}
    (htoken : ∀ rest, EndsNumber rest →
      token? (Floating.signText negative ++ n.text ++ rest) = some (.scalar v, rest)) :
    Spells (Floating.signText negative ++ n.text) v := by
  have hascii : ∀ c ∈ Floating.signText negative ++ n.text, c.toNat < 0x80 := fun c hc =>
    toNat_lt_of_isNumeralChar (Numeral.isNumeralChar_of_mem_signed hc)
  have hspace : ∀ c ∈ Floating.signText negative ++ n.text, isSpace c = false := fun c hc =>
    isSpace_of_isBlank (isBlank_of_isNumeralChar (Numeral.isNumeralChar_of_mem_signed hc))
  obtain ⟨d, rest, hd, -⟩ := n.exists_text_eq
  rcases hcs : Floating.signText negative ++ n.text with _ | ⟨c, w⟩
  · rw [hd] at hcs
    exact absurd (List.append_eq_nil_iff.mp hcs).2 (List.cons_ne_nil _ _)
  · rw [hcs] at hascii hspace htoken
    exact spells_of_token hascii (hspace c List.mem_cons_self) htoken

/-- **The digits of an integer are read as the integer.** -/
lemma spells_intDigits (k : Int) : Spells (intDigits k) (.int k) := by
  have htoken : ∀ rest, EndsNumber rest →
      token? (intDigits k ++ rest) = some (.scalar (.int k), rest) :=
    fun rest hrest => token?_intDigits k hrest
  rw [← Numeral.signed_ofNat] at htoken ⊢
  exact spells_numeral htoken

/-- **The text of a finite double is read as the double.** -/
lemma spells_double {m : Nat} {q : Int} (h : Format.double.Holds m q) (negative : Bool) :
    Spells (double (.finite negative m q)) (.float (.finite negative m q)) := by
  obtain ⟨n, htext, -, -⟩ := Literal.floating?_text h negative
  have hdouble : double (.finite negative m q) = Floating.signText negative ++ n.text := htext
  have htoken : ∀ rest, EndsNumber rest → token? (double (.finite negative m q) ++ rest) =
      some (.scalar (.float (.finite negative m q)), rest) :=
    fun rest hrest => token?_double h negative hrest
  rw [hdouble] at htoken ⊢
  exact spells_numeral htoken

/-- The two truth values are read as they are written. -/
lemma spells_bool (b : Bool) :
    Spells (if b then "true".toList else "false".toList) (.bool b) := by
  cases b with
  | true =>
    show Spells ['t', 'r', 'u', 'e'] _
    exact spells_of_token (by simp) rfl fun rest _ => token?_bool true rest
  | false =>
    show Spells ['f', 'a', 'l', 's', 'e'] _
    exact spells_of_token (by simp) rfl fun rest _ => token?_bool false rest

/-! ## Objects -/

/-- A text is read as an entry of an object. -/
def SpellsEntry (cs : List Char) (e : String × Value) : Prop :=
  ∃ w, cs = quoted e.1.toList ++ ':' :: ' ' :: w ∧ Spells w e.2

/-- An entry is stored under its name. -/
lemma SpellsEntry.takes {e : String × Value} (h : SpellsEntry cs e) {s : State} {first : Bool}
    (hs : s.expect = .name first) {entries : OrderedMap Value Value} {name : Value}
    {frames : List Frame} (hframes : s.frames = .object entries name :: frames) :
    Takes cs s ⟨.object (entries.insert (.text e.1) e.2) (.text e.1) :: frames, .next,
      s.result⟩ := by
  obtain ⟨w, rfl, hw⟩ := h
  have hname : Takes (quoted e.1.toList) s
      ⟨.object entries (.text e.1) :: frames, .colon, s.result⟩ := by
    refine takes_token rfl (fun rest _ => token?_quoted e.1.toList rest) ?_
    simp only [State.step, hs, hframes, String.ofList_toList]
  have hcolon : Takes [':'] ⟨.object entries (.text e.1) :: frames, .colon, s.result⟩
      ⟨.object entries (.text e.1) :: frames, .value false, s.result⟩ :=
    takes_token rfl (fun rest _ => rfl) rfl
  have hvalue := (hw.takes ⟨.object entries (.text e.1) :: frames, .value false, s.result⟩ false
    rfl).space
  exact hname.append (hcolon.append hvalue (endsNumber_cons (by decide) _))
    (endsNumber_cons (by decide) _)

/-- Entries behind commas end a number. -/
lemma endsNumber_entries (texts : List (List Char)) :
    EndsNumber (texts.flatMap fun text => ',' :: ' ' :: text) := by
  cases texts with
  | nil => exact nofun
  | cons text texts => exact endsNumber_cons (by decide) _

/-- Entries behind commas are stored one after the other. -/
lemma takes_entries {texts : List (List Char)} {entries : List (String × Value)}
    (h : List.Forall₂ SpellsEntry texts entries) (m : OrderedMap Value Value) (name : Value)
    (frames : List Frame) (result : Option Value) :
    ∃ name', Takes (texts.flatMap fun text => ',' :: ' ' :: text)
      ⟨.object m name :: frames, .next, result⟩
      ⟨.object (m.insertAll (Value.named entries)) name' :: frames, .next, result⟩ := by
  induction h generalizing m name with
  | nil => exact ⟨name, Takes.refl _⟩
  | @cons text e texts entries hentry _ ih =>
    obtain ⟨name', hrest⟩ := ih (m.insert (.text e.1) e.2) (.text e.1)
    have hcomma : Takes [','] ⟨.object m name :: frames, .next, result⟩
        ⟨.object m name :: frames, .name false, result⟩ :=
      takes_token rfl (fun rest _ => rfl) rfl
    have hfirst := (hentry.takes (s := ⟨.object m name :: frames, .name false, result⟩) rfl
      rfl).space
    exact ⟨name', (hcomma.append hfirst (endsNumber_cons (by decide) _)).append hrest
      (endsNumber_entries texts)⟩

/-- Texts with separators between them: each but the first one is behind a separator. -/
lemma separated_cons (separator text : List Char) (texts : List (List Char)) :
    separated separator (text :: texts) = text ++ texts.flatMap (separator ++ ·) := by
  unfold separated
  induction texts generalizing text with
  | nil => exact List.intercalate_singleton.trans (List.append_nil _).symm
  | cons next texts ih =>
    rw [List.intercalate_cons_cons, ih, List.flatMap_cons, List.append_assoc, List.append_assoc]

/-- An entry is written in ASCII. -/
lemma SpellsEntry.ascii {e : String × Value} (h : SpellsEntry cs e) {c : Char} (hc : c ∈ cs) :
    c.toNat < 0x80 := by
  obtain ⟨w, rfl, hw⟩ := h
  rcases List.mem_append.mp hc with hc | hc
  · exact (spells_quoted e.1).ascii c hc
  · rcases List.mem_cons.mp hc with rfl | hc
    · decide
    · rcases List.mem_cons.mp hc with rfl | hc
      · decide
      · exact hw.ascii c hc

/-- An object is written in ASCII. -/
lemma toNat_lt_of_mem_object {texts : List (List Char)}
    (h : ∀ text ∈ texts, ∃ e, SpellsEntry text e) {c : Char}
    (hc : c ∈ '{' :: separated [',', ' '] texts ++ ['}']) : c.toNat < 0x80 := by
  rcases List.mem_cons.mp hc with rfl | hc
  · decide
  rcases List.mem_append.mp hc with hc | hc
  · cases texts with
    | nil => nomatch hc
    | cons text texts =>
      rw [separated_cons] at hc
      rcases List.mem_append.mp hc with hc | hc
      · obtain ⟨e, he⟩ := h text List.mem_cons_self
        exact he.ascii hc
      · obtain ⟨next, hnext, hc⟩ := List.mem_flatMap.mp hc
        rcases List.mem_append.mp hc with hc | hc
        · simp only [List.mem_cons, List.not_mem_nil, or_false] at hc
          rcases hc with rfl | rfl <;> decide
        · obtain ⟨e, he⟩ := h next (List.mem_cons_of_mem _ hnext)
          exact he.ascii hc
  · obtain rfl := List.mem_singleton.mp hc
    decide

/-- **An object is read as a dictionary of its entries.**

**Proof sketch.** The brace opens a map without entries, each entry is stored in it behind its
comma, and the other brace closes it. -/
theorem spells_object {texts : List (List Char)} {entries : List (String × Value)}
    (h : List.Forall₂ SpellsEntry texts entries) :
    Spells ('{' :: separated [',', ' '] texts ++ ['}'])
      (.dict (OrderedMap.ofList (Value.named entries)).entries) := by
  have hspells : ∀ text ∈ texts, ∃ e, SpellsEntry text e := fun text htext =>
    (exists_mem_of_forall₂ h.flip text htext).imp fun _ he => he.2
  refine ⟨fun c hc => toNat_lt_of_mem_object hspells hc, fun s first hs => ?_⟩
  have hopen : Takes ['{'] s ⟨.object .empty .null :: s.frames, .name true, s.result⟩ := by
    refine takes_token rfl (fun rest _ => rfl) ?_
    simp only [State.step, hs]
  have hclose : ∀ (m : OrderedMap Value Value) (name : Value) (e : Expect),
      e = .next ∨ e = .name true →
      Takes ['}'] ⟨.object m name :: s.frames, e, s.result⟩ (s.put (.dict m.entries)) := by
    intro m name e he
    refine takes_token rfl (fun rest _ => rfl) ?_
    obtain ⟨frames, expect, result⟩ := s
    rcases he with rfl | rfl
    · rcases frames with _ | ⟨_ | _, _⟩ <;> rfl
    · rcases frames with _ | ⟨_ | _, _⟩ <;> rfl
  cases h with
  | nil => exact hopen.append (hclose .empty .null _ (.inr rfl)) (endsNumber_cons (by decide) _)
  | @cons text e texts entries hentry hrest =>
    obtain ⟨name, hentries⟩ :=
      takes_entries hrest (OrderedMap.empty.insert (.text e.1) e.2) (.text e.1) s.frames s.result
    have hfirst := hentry.takes (s := ⟨.object .empty .null :: s.frames, .name true, s.result⟩) rfl
      rfl
    have hends : EndsNumber (text ++ texts.flatMap fun text => ',' :: ' ' :: text) := by
      obtain ⟨w, rfl, -⟩ := hentry
      exact endsNumber_cons (by decide) _
    rw [separated_cons]
    exact (hopen.append (hfirst.append hentries (endsNumber_entries texts)) hends).append
      (hclose _ name _ (.inl rfl)) (endsNumber_cons (by decide) _)

/-! ## Reading back what is written -/

/-- What is written for a value is read as another one. -/
def ReadsBack (v w : Value) : Prop :=
  ∃ cs, write v = .ok cs ∧ Spells cs w

namespace ReadsBack

/-- Texts are read back. -/
lemma text (s : String) : ReadsBack (.text s) (.text s) :=
  ⟨_, rfl, spells_quoted s⟩

/-- Integers are read back. -/
lemma int (k : Int) : ReadsBack (.int k) (.int k) :=
  ⟨_, rfl, spells_intDigits k⟩

/-- Truth values are read back. -/
lemma bool (b : Bool) : ReadsBack (.bool b) (.bool b) :=
  ⟨_, rfl, spells_bool b⟩

/-- Finite doubles are read back. -/
lemma float {m : Nat} {q : Int} (h : Format.double.Holds m q) (negative : Bool) :
    ReadsBack (.float (.finite negative m q)) (.float (.finite negative m q)) :=
  ⟨_, rfl, spells_double h negative⟩

/-- Finite doubles of fixed width are read back as doubles. -/
lemma sized {m : Nat} {q : Int} (h : Format.double.Holds m q) (negative : Bool) :
    ReadsBack (.sized (.floating .double (.finite negative m q)))
      (.float (.finite negative m q)) :=
  ⟨_, rfl, spells_double h negative⟩

/-- Entries are read back if their values are. -/
lemma entries {es es' : List (String × Value)}
    (h : List.Forall₂ (fun e e' => e.1 = e'.1 ∧ ReadsBack e.2 e'.2) es es') :
    ∃ texts, writeEntries (Value.named es) = .ok texts ∧ List.Forall₂ SpellsEntry texts es' := by
  induction h with
  | nil => exact ⟨[], rfl, .nil⟩
  | @cons e e' es es' hentry _ ih =>
    obtain ⟨texts, hwrite, htexts⟩ := ih
    obtain ⟨hname, cs, hvalue, hcs⟩ := hentry
    refine ⟨(quoted e.1.toList ++ ':' :: ' ' :: cs) :: texts, ?_,
      .cons ⟨cs, by rw [hname], hcs⟩ htexts⟩
    show writeEntries ((.text e.1, e.2) :: Value.named es) = _
    rw [writeEntries, hvalue, hwrite]
    rfl

/-- **Dictionaries with different texts as names are read back**, if their values are. -/
theorem dict {es es' : List (String × Value)}
    (h : List.Forall₂ (fun e e' => e.1 = e'.1 ∧ ReadsBack e.2 e'.2) es es')
    (hnames : (es'.map Prod.fst).Nodup) :
    ReadsBack (.dict (Value.named es)) (.dict (Value.named es')) := by
  obtain ⟨texts, hwrite, htexts⟩ := entries h
  refine ⟨'{' :: separated [',', ' '] texts ++ ['}'], ?_, ?_⟩
  · rw [write, hwrite]
    rfl
  · have hkeys : (OrderedMap.mk (Value.named es')).DistinctKeys := by
      rw [OrderedMap.DistinctKeys, OrderedMap.keys, Value.named, List.map_map, List.pairwise_map]
      refine (List.pairwise_map.mp hnames).imp fun {e e'} hne => ?_
      rw [Function.comp_apply, Function.comp_apply, Value.same_text, beq_eq_false_iff_ne]
      exact hne
    have hobject := spells_object htexts
    rwa [OrderedMap.entries_ofList hkeys] at hobject

end ReadsBack

end SeriesClient.Json
