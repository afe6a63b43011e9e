import SeriesClient.Proofs.Json.Documents

set_option relaxedAutoImplicit false
set_option autoImplicit false

/-!
# Documents of the standard

The writer and the reader know three literals that the standard does not have, for the numbers that
are not finite. What is written for a value is a document of the standard exactly if there is no
such number in it.

## Main definitions

* `SeriesClient.Json.IsNumber`, `SeriesClient.Json.IsText` — numbers and texts of the standard.
* `SeriesClient.Json.IsStandard` — the documents of the standard.
* `SeriesClient.Json.isFinite` — whether all numbers in a value are finite.
* `SeriesClient.Json.Region` — whether a character of a document is part of a text.

## Main results

* `SeriesClient.Json.IsStandard.isClean` — outside of texts, no document of the standard has one of
  the letters that the three literals begin with.
* `SeriesClient.Json.write_isStandard_iff` — which values are written as documents of the standard.

## Design

The grammar has a rule for each kind of value, and one for white space around a value. That a text
is no document cannot be shown rule by rule, since a text can be cut in many ways. It is shown by
a property of all documents: an automaton with three states, which knows what is part of a text,
never meets a capital N or I outside of one.
-/

namespace SeriesClient.Json

/-! ## The grammar -/

/-- Nothing but white space. -/
def IsSpaces (cs : List Char) : Prop := ∀ c ∈ cs, isSpace c = true

/-- At least one digit, and nothing else. -/
def IsDigits (cs : List Char) : Prop := cs ≠ [] ∧ ∀ c ∈ cs, c.isDigit = true

/-- The digits behind the point of a number, with the point, or nothing. -/
inductive IsFraction : List Char → Prop where
  /-- A number need not have a point. -/
  | absent : IsFraction []
  /-- A point has digits behind it. -/
  | present {ds : List Char} (h : IsDigits ds) : IsFraction ('.' :: ds)

/-- The exponent of a number, with its letter, or nothing. -/
inductive IsExponent : List Char → Prop where
  /-- A number need not have an exponent. -/
  | absent : IsExponent []
  /-- An exponent may have a sign of either kind. -/
  | present {mark : Char} {sign ds : List Char} (hmark : mark = 'e' ∨ mark = 'E')
      (hsign : sign = [] ∨ sign = ['+'] ∨ sign = ['-']) (h : IsDigits ds) :
      IsExponent (mark :: sign ++ ds)

/-- A number: no zero stands in front of other digits before the point. -/
inductive IsNumber : List Char → Prop where
  /-- The parts of a number, in order. -/
  | parts {whole fraction power : List Char} (negative : Bool) (hwhole : IsDigits whole)
      (hleading : ∀ rest, whole = '0' :: rest → rest = []) (hfraction : IsFraction fraction)
      (hpower : IsExponent power) :
      IsNumber (Floating.signText negative ++ (whole ++ (fraction ++ power)))

/-- What stands for one code unit or one character of a text. -/
inductive IsTextPart : List Char → Prop where
  /-- A character that stands for itself. -/
  | plain {c : Char} (hquote : c ≠ '"') (hslash : c ≠ '\\') (hcontrol : 0x20 ≤ c.toNat) :
      IsTextPart [c]
  /-- A letter or mark behind a backslash. -/
  | short {c : Char} (h : c ∈ ['"', '\\', '/', 'b', 'f', 'n', 'r', 't']) : IsTextPart ['\\', c]
  /-- The four digits of a code unit. -/
  | unit {a b c d : Char} (h : ∀ x ∈ [a, b, c, d], (hexDigit? x).isSome = true) :
      IsTextPart ['\\', 'u', a, b, c, d]

/-- A text between quotes. -/
inductive IsText : List Char → Prop where
  /-- The parts of a text, in order. -/
  | parts {parts : List (List Char)} (h : ∀ part ∈ parts, IsTextPart part) :
      IsText ('"' :: parts.flatten ++ ['"'])

/-- Nothing is white space. -/
lemma isSpaces_nil : IsSpaces [] := nofun

/-- A space is white space. -/
lemma isSpaces_space : IsSpaces [' '] := fun c hc => by
  rw [List.mem_singleton.mp hc]
  rfl

/-- The name of an entry: a text, with white space around it. -/
inductive IsName : List Char → Prop where
  /-- White space, the text, and white space. -/
  | padded {before name after : List Char} (hbefore : IsSpaces before) (h : IsText name)
      (hafter : IsSpaces after) : IsName (before ++ (name ++ after))

/-- A name and a value with a colon between them. -/
def entryText (e : List Char × List Char) : List Char := e.1 ++ ':' :: e.2

/-- **The documents of the standard.** -/
inductive IsStandard : List Char → Prop where
  /-- The absent value. -/
  | null : IsStandard ['n', 'u', 'l', 'l']
  /-- Truth. -/
  | true : IsStandard ['t', 'r', 'u', 'e']
  /-- Falsehood. -/
  | false : IsStandard ['f', 'a', 'l', 's', 'e']
  /-- A number. -/
  | number {cs : List Char} (h : IsNumber cs) : IsStandard cs
  /-- A text. -/
  | text {cs : List Char} (h : IsText cs) : IsStandard cs
  /-- An array without items. -/
  | emptyArray {blank : List Char} (h : IsSpaces blank) : IsStandard ('[' :: blank ++ [']'])
  /-- An array of items with commas between them. -/
  | array {first : List Char} {rest : List (List Char)} (hfirst : IsStandard first)
      (hrest : ∀ item ∈ rest, IsStandard item) :
      IsStandard ('[' :: (first ++ rest.flatMap (',' :: ·)) ++ [']'])
  /-- An object without entries. -/
  | emptyObject {blank : List Char} (h : IsSpaces blank) : IsStandard ('{' :: blank ++ ['}'])
  /-- An object of entries with commas between them. -/
  | object {first : List Char × List Char} {rest : List (List Char × List Char)}
      (hnames : ∀ e ∈ first :: rest, IsName e.1) (hvalues : ∀ e ∈ first :: rest, IsStandard e.2) :
      IsStandard ('{' :: (entryText first ++ rest.flatMap fun e => ',' :: entryText e) ++ ['}'])
  /-- White space around a document. -/
  | padded {before cs after : List Char} (hbefore : IsSpaces before) (h : IsStandard cs)
      (hafter : IsSpaces after) : IsStandard (before ++ (cs ++ after))

/-- A space in front of a document. -/
lemma IsStandard.space {cs : List Char} (h : IsStandard cs) : IsStandard (' ' :: cs) := by
  have hpadded := IsStandard.padded isSpaces_space h isSpaces_nil
  rwa [List.append_nil] at hpadded

/-! ## Inside and outside of texts -/

/-- Where the next character of a document stands. -/
inductive Region where
  /-- Outside of texts. -/
  | outside
  /-- Inside a text. -/
  | inside
  /-- Inside a text and behind a backslash. -/
  | escaped
  deriving DecidableEq

/-- Where the character after the next one stands. No capital N or I may come outside of texts. -/
def Region.step : Region → Char → Option Region
  | .outside, c =>
    if c = '"' then some .inside else if c = 'N' ∨ c = 'I' then none else some .outside
  | .inside, c => some (if c = '"' then .outside else if c = '\\' then .escaped else .inside)
  | .escaped, _ => some .inside

/-- All texts in a piece of a document end in it, and no capital N or I stands outside of them. -/
def IsClean (cs : List Char) : Prop := cs.foldlM Region.step .outside = some .outside

/-- A capital N or I stands outside of all texts. -/
def Strays (cs : List Char) : Prop := cs.foldlM Region.step .outside = none

section Clean

variable {cs ds : List Char}

/-- Two clean pieces after one another are clean. -/
lemma IsClean.append (h : IsClean cs) (h' : IsClean ds) : IsClean (cs ++ ds) := by
  rw [IsClean, List.foldlM_append, h]
  exact h'

/-- A letter that strays does so behind a clean piece as well. -/
lemma IsClean.append_strays (h : IsClean cs) (h' : Strays ds) : Strays (cs ++ ds) := by
  rw [Strays, List.foldlM_append, h]
  exact h'

/-- Nothing behind a letter that strays makes up for it. -/
lemma Strays.append (h : Strays cs) (ds : List Char) : Strays (cs ++ ds) := by
  rw [Strays, List.foldlM_append, h]
  rfl

/-- No letter strays in a clean piece. -/
lemma IsClean.not_strays (h : IsClean cs) : ¬ Strays cs := by
  rw [Strays, h]
  exact nofun

/-- Characters other than quotes and the two letters. -/
lemma isClean_of_forall (h : ∀ c ∈ cs, c ≠ '"' ∧ c ≠ 'N' ∧ c ≠ 'I') : IsClean cs := by
  induction cs with
  | nil => rfl
  | cons c cs ih =>
    obtain ⟨hquote, hN, hI⟩ := h c List.mem_cons_self
    have hstep : Region.step .outside c = some .outside := by
      rw [Region.step, if_neg hquote, if_neg (not_or.mpr ⟨hN, hI⟩)]
    rw [IsClean, List.foldlM_cons, hstep]
    exact ih fun d hd => h d (List.mem_cons_of_mem _ hd)

/-- A single mark between the parts of a document. -/
lemma IsClean.cons {c : Char} (hc : c ≠ '"' ∧ c ≠ 'N' ∧ c ≠ 'I') (h : IsClean cs) :
    IsClean (c :: cs) := by
  have hmark : IsClean [c] := isClean_of_forall fun _ hd => List.mem_singleton.mp hd ▸ hc
  exact hmark.append h

/-- Clean pieces make a clean whole. -/
lemma isClean_flatMap {α : Type} {l : List α} {f : α → List Char}
    (h : ∀ a ∈ l, IsClean (f a)) : IsClean (l.flatMap f) := by
  induction l with
  | nil => rfl
  | cons a l ih =>
    rw [List.flatMap_cons]
    exact (h a List.mem_cons_self).append (ih fun b hb => h b (List.mem_cons_of_mem _ hb))

/-- One piece with a stray letter is enough, if the others end their texts. -/
lemma strays_flatMap {α : Type} {l : List α} {f : α → List Char}
    (h : ∀ a ∈ l, IsClean (f a) ∨ Strays (f a)) (hstray : ∃ a ∈ l, Strays (f a)) :
    Strays (l.flatMap f) := by
  induction l with
  | nil =>
    obtain ⟨a, ha, -⟩ := hstray
    nomatch ha
  | cons a l ih =>
    rw [List.flatMap_cons]
    rcases h a List.mem_cons_self with hclean | ha
    · refine hclean.append_strays (ih (fun b hb => h b (List.mem_cons_of_mem _ hb)) ?_)
      obtain ⟨b, hb, hstray⟩ := hstray
      rcases List.mem_cons.mp hb with rfl | hb
      · exact absurd hstray hclean.not_strays
      · exact ⟨b, hb, hstray⟩
    · exact ha.append _

end Clean

/-! ## Documents of the standard are clean -/

/-- White space is clean. -/
lemma IsSpaces.isClean {cs : List Char} (h : IsSpaces cs) : IsClean cs := by
  refine isClean_of_forall fun c hc => ?_
  have hspace := h c hc
  simp only [isSpace, Bool.or_eq_true, decide_eq_true_iff] at hspace
  rcases hspace with ((rfl | rfl) | rfl) | rfl <;> decide

/-- Digits are clean. -/
lemma IsDigits.isClean {cs : List Char} (h : IsDigits cs) : IsClean cs :=
  isClean_of_forall fun c hc =>
    ⟨ne_of_isDigit (h.2 c hc) rfl, ne_of_isDigit (h.2 c hc) rfl, ne_of_isDigit (h.2 c hc) rfl⟩

/-- Numbers of the standard are clean: the letter of an exponent is none of the two. -/
lemma IsNumber.isClean {cs : List Char} (h : IsNumber cs) : IsClean cs := by
  obtain ⟨negative, hwhole, -, hfraction, hpower⟩ := h
  have hsign : IsClean (Floating.signText negative) := by cases negative <;> rfl
  refine hsign.append (hwhole.isClean.append (IsClean.append ?_ ?_))
  · cases hfraction with
    | absent => rfl
    | present h => exact h.isClean.cons (by decide)
  · cases hpower with
    | absent => rfl
    | present hmark hsign h =>
      refine IsClean.append ?_ h.isClean
      rcases hmark with rfl | rfl <;> rcases hsign with rfl | rfl | rfl <;> rfl

/-- What stands for a character of a text does not end the text. -/
lemma IsTextPart.foldlM_step {cs : List Char} (h : IsTextPart cs) :
    cs.foldlM Region.step .inside = some .inside := by
  cases h with
  | @plain c hquote hslash _ =>
    have hstep : Region.step .inside c = some .inside := by
      rw [Region.step, if_neg hquote, if_neg hslash]
    rw [List.foldlM_cons, hstep]
    rfl
  | short _ => rfl
  | @unit a b c d h =>
    have hdigit : ∀ x ∈ [a, b, c, d], Region.step .inside x = some .inside := by
      intro x hx
      have hx := h x hx
      rw [Region.step, if_neg, if_neg]
      · rintro rfl
        nomatch hx
      · rintro rfl
        nomatch hx
    have hmarks : ['\\', 'u', a, b, c, d].foldlM Region.step .inside =
        [a, b, c, d].foldlM Region.step .inside := rfl
    rw [hmarks]
    simp only [List.foldlM_cons, List.foldlM_nil, hdigit a (by simp), hdigit b (by simp),
      hdigit c (by simp), hdigit d (by simp), Option.bind_eq_bind, Option.bind_some]
    rfl

/-- Texts of the standard are clean: they end at their closing quote and not before. -/
lemma IsText.isClean {cs : List Char} (h : IsText cs) : IsClean cs := by
  obtain ⟨h⟩ := h
  next parts =>
  have hinside : parts.flatten.foldlM Region.step .inside = some .inside := by
    induction parts with
    | nil => rfl
    | cons part parts ih =>
      rw [List.flatten_cons, List.foldlM_append, (h part List.mem_cons_self).foldlM_step]
      exact ih fun p hp => h p (List.mem_cons_of_mem _ hp)
  have hopen : Region.step .outside '"' = some .inside := rfl
  rw [IsClean, List.cons_append, List.foldlM_cons, hopen]
  show (parts.flatten ++ ['"']).foldlM Region.step .inside = some .outside
  rw [List.foldlM_append, hinside]
  rfl

/-- Names of entries are clean. -/
lemma IsName.isClean {cs : List Char} (h : IsName cs) : IsClean cs := by
  obtain ⟨hbefore, h, hafter⟩ := h
  exact hbefore.isClean.append (h.isClean.append hafter.isClean)

/-- An entry of a clean name and a clean value is clean. -/
lemma isClean_entryText {e : List Char × List Char} (hname : IsClean e.1)
    (hvalue : IsClean e.2) : IsClean (entryText e) :=
  hname.append (hvalue.cons (by decide))

/-- **Documents of the standard are clean**: outside of texts, they have no capital N or I. -/
theorem IsStandard.isClean {cs : List Char} (h : IsStandard cs) : IsClean cs := by
  have hbracket : ∀ {c : Char} {ds : List Char}, c = ']' ∨ c = '}' → IsClean ds →
      IsClean (ds ++ [c]) := by
    intro c ds hc hds
    refine hds.append ?_
    rcases hc with rfl | rfl <;> rfl
  induction h with
  | null => rfl
  | true => rfl
  | false => rfl
  | number h => exact h.isClean
  | text h => exact h.isClean
  | emptyArray h => exact hbracket (.inl rfl) (h.isClean.cons (by decide))
  | array _ _ hfirst hrest =>
    refine hbracket (.inl rfl) (IsClean.cons (by decide) (hfirst.append ?_))
    exact isClean_flatMap fun item hitem => (hrest item hitem).cons (by decide)
  | emptyObject h => exact hbracket (.inr rfl) (h.isClean.cons (by decide))
  | @object first rest hnames _ hvalues =>
    have hentry : ∀ e ∈ first :: rest, IsClean (entryText e) := fun e he =>
      isClean_entryText (hnames e he).isClean (hvalues e he)
    refine hbracket (.inr rfl) (IsClean.cons (by decide) ((hentry _ List.mem_cons_self).append ?_))
    exact isClean_flatMap fun e he =>
      (hentry e (List.mem_cons_of_mem _ he)).cons (by decide)
  | padded hbefore _ hafter ih => exact hbefore.isClean.append (ih.append hafter.isClean)

/-! ## What the writer writes for texts and numbers -/

/-- The four digits of a code unit. -/
lemma isTextPart_unit {n : Nat} (hn : n < 0x10000) : IsTextPart (unit n) := by
  have hdigit : ∀ k, (hexDigit? (Nat.digitChar (k % 16))).isSome = true := fun k => by
    rw [hexDigit?_digitChar _ (Nat.mod_lt _ (by decide))]
    rfl
  have hfirst : (hexDigit? (n / 16 / 16 / 16).digitChar).isSome = true := by
    rw [hexDigit?_digitChar _ (by omega)]
    rfl
  rw [unit, hex_eq hn]
  refine .unit fun x hx => ?_
  simp only [List.mem_cons, List.not_mem_nil, or_false] at hx
  rcases hx with rfl | rfl | rfl | rfl
  · exact hfirst
  · exact hdigit _
  · exact hdigit _
  · exact hdigit _

/-- A character is written in one part or two. -/
lemma exists_escape_eq (c : Char) :
    ∃ parts : List (List Char), (∀ part ∈ parts, IsTextPart part) ∧
      escape c = parts.flatten := by
  have hone : ∀ {cs : List Char}, IsTextPart cs → ∃ parts : List (List Char),
      (∀ part ∈ parts, IsTextPart part) ∧ cs = parts.flatten := fun {cs} h =>
    ⟨[cs], fun part hpart => List.mem_singleton.mp hpart ▸ h, by simp⟩
  unfold escape
  split
  case h_8 hquote hslash _ _ _ _ _ =>
    dsimp only
    split
    · next hprintable => exact hone (.plain hquote hslash hprintable.1)
    · split
      · next hsmall => exact hone (isTextPart_unit hsmall)
      · have hbound := toNat_lt c
        refine ⟨[unit (0xd800 + (c.toNat - 0x10000) / 0x400),
          unit (0xdc00 + (c.toNat - 0x10000) % 0x400)], fun part hpart => ?_, by simp⟩
        simp only [List.mem_cons, List.not_mem_nil, or_false] at hpart
        rcases hpart with rfl | rfl
        · exact isTextPart_unit (by omega)
        · exact isTextPart_unit (by omega)
  all_goals exact hone (.short (by decide))

/-- **A text between quotes is a text of the standard.** -/
lemma isText_quoted (cs : List Char) : IsText (quoted cs) := by
  obtain ⟨parts, hparts, hflat⟩ : ∃ parts : List (List Char),
      (∀ part ∈ parts, IsTextPart part) ∧ cs.flatMap escape = parts.flatten := by
    induction cs with
    | nil => exact ⟨[], nofun, rfl⟩
    | cons c cs ih =>
      obtain ⟨parts, hparts, hflat⟩ := ih
      obtain ⟨first, hfirst, hescape⟩ := exists_escape_eq c
      refine ⟨first ++ parts, fun part hpart => ?_, ?_⟩
      · exact (List.mem_append.mp hpart).elim (hfirst part) (hparts part)
      · rw [List.flatMap_cons, hescape, hflat, List.flatten_append]
  rw [quoted, hflat]
  exact .parts hparts

/-- A numeral with its sign is a number of the standard. -/
lemma isNumber_signed (n : Numeral) (negative : Bool) :
    IsNumber (Floating.signText negative ++ n.text) := by
  rw [Numeral.text, List.append_assoc]
  refine .parts negative ⟨n.whole_ne_nil, fun c hc => n.isDigit c (List.mem_append_left _ hc)⟩
    n.leading ?_ ?_
  · unfold Numeral.pointText
    split
    · exact .absent
    · next hne => exact .present ⟨hne, fun c hc => n.isDigit c (List.mem_append_right _ hc)⟩
  · unfold Numeral.powerText
    split
    · exact .absent
    · next e _ =>
      have hdigits : IsDigits (paddedDigits 2 e.natAbs) :=
        ⟨paddedDigits_ne_nil _ _, fun c hc => isDigit_of_mem_paddedDigits hc⟩
      split
      · have hsign : ['-'] = [] ∨ ['-'] = ['+'] ∨ ['-'] = ['-'] := .inr (.inr rfl)
        exact .present (.inl rfl) hsign hdigits
      · have hsign : ['+'] = [] ∨ ['+'] = ['+'] ∨ ['+'] = ['-'] := .inr (.inl rfl)
        exact .present (.inl rfl) hsign hdigits

/-- The digits of an integer are a number of the standard. -/
lemma isStandard_intDigits (k : Int) : IsStandard (intDigits k) := by
  rw [← Numeral.signed_ofNat]
  exact .number (isNumber_signed _ _)

/-- A double is written as a number of the standard if it is finite. -/
lemma isStandard_double {x : Floating} (h : x.isFinite = true) : IsStandard (double x) := by
  cases x with
  | finite negative m q =>
    obtain ⟨n, htext, -⟩ := Floating.exists_numeral .double negative m q
    have hdouble : double (.finite negative m q) = Floating.signText negative ++ n.text := htext
    rw [hdouble]
    exact .number (isNumber_signed _ _)
  | _ => nomatch h

/-- A double that is not finite is written as one of the three literals. -/
lemma strays_double {x : Floating} (h : x.isFinite = false) : Strays (double x) := by
  cases x with
  | nan => rfl
  | infinite negative => cases negative <;> rfl
  | finite negative m q => nomatch h

/-- A name is written as a text, whatever its kind. -/
lemma isText_name {v : Value} {cs : List Char} (h : name v = .ok cs) : IsText cs := by
  unfold name at h
  split at h
  case h_7 => nomatch h
  all_goals
    obtain rfl := Except.ok.inj h
    exact isText_quoted _

/-! ## What the writer writes for all values -/

mutual

/-- Whether all numbers in a value are finite. Names do not count: they are written as texts. -/
def isFinite : Value → Bool
  | .float x => x.isFinite
  | .sized (.floating .double x) => x.isFinite
  | .list xs => allFinite xs
  | .tuple xs => allFinite xs
  | .dict entries => entriesFinite entries
  | _ => true

/-- Whether all numbers in the items of an array are finite. -/
def allFinite : List Value → Bool
  | [] => true
  | x :: xs => isFinite x && allFinite xs

/-- Whether all numbers in the entries of an object are finite. -/
def entriesFinite : List (Value × Value) → Bool
  | [] => true
  | (_, v) :: rest => isFinite v && entriesFinite rest

end

/-- All numbers in a list are finite if those in each item are. -/
@[simp]
lemma allFinite_eq_all (xs : List Value) : allFinite xs = xs.all isFinite := by
  induction xs with
  | nil => rfl
  | cons x xs ih => rw [allFinite, ih, List.all_cons]

/-- All numbers in an object are finite if those in each value are. -/
@[simp]
lemma entriesFinite_eq_all (entries : List (Value × Value)) :
    entriesFinite entries = entries.all fun e => isFinite e.2 := by
  induction entries with
  | nil => rfl
  | cons e entries ih => rw [entriesFinite, ih, List.all_cons]

/-- The numbers in a dictionary are those of its values. -/
lemma isFinite_dict_named (entries : List (String × Value)) :
    isFinite (.dict (Value.named entries)) = true ↔ ∀ e ∈ entries, isFinite e.2 = true := by
  rw [isFinite, entriesFinite_eq_all, Value.named, List.all_map, List.all_eq_true]
  exact Iff.rfl

/-- What is written for a value: a document of the standard, or one with a stray letter. -/
structure Outcome (finite : Bool) (cs : List Char) : Prop where
  /-- Without a number that is not finite, it is a document of the standard. -/
  standard : finite = true → IsStandard cs
  /-- With one, a letter of its name stands outside of texts. -/
  strays : finite = false → Strays cs

section Outcome

variable {finite : Bool} {cs : List Char}

/-- What is a document of the standard is the outcome of a finite value. -/
lemma outcome_standard (h : IsStandard cs) : Outcome Bool.true cs :=
  ⟨fun _ => h, fun hfinite => nomatch hfinite⟩

/-- The outcome of a value ends its texts, or has a letter that strays. -/
lemma Outcome.isClean_or_strays (h : Outcome finite cs) : IsClean cs ∨ Strays cs := by
  cases finite with
  | true => exact .inl (h.standard rfl).isClean
  | false => exact .inr (h.strays rfl)

/-- What is written for a double. -/
lemma outcome_double (x : Floating) : Outcome x.isFinite (double x) :=
  ⟨isStandard_double, strays_double⟩

end Outcome

/-- Texts with a comma and a space between them: a comma stands before each but the first one, and
the space is part of what follows it. -/
lemma separated_comma (text : List Char) (texts : List (List Char)) :
    separated [',', ' '] (text :: texts) =
      text ++ (texts.map (' ' :: ·)).flatMap (',' :: ·) := by
  rw [separated_cons, List.flatMap_map]
  rfl

/-- Texts between brackets, one of which has a stray letter. -/
lemma strays_bracketed {texts : List (List Char)} {opening closing : Char}
    (hopening : opening ≠ '"' ∧ opening ≠ 'N' ∧ opening ≠ 'I')
    (h : ∀ text ∈ texts, IsClean text ∨ Strays text) (hstray : ∃ text ∈ texts, Strays text) :
    Strays (opening :: separated [',', ' '] texts ++ [closing]) := by
  have hopen : IsClean [opening] :=
    isClean_of_forall fun _ hd => List.mem_singleton.mp hd ▸ hopening
  have hcomma : IsClean [',', ' '] := rfl
  have hitems : Strays (separated [',', ' '] texts) := by
    cases texts with
    | nil =>
      obtain ⟨text, htext, -⟩ := hstray
      nomatch htext
    | cons text texts =>
      rw [separated_cons]
      rcases h text List.mem_cons_self with hclean | hhead
      · refine hclean.append_strays (strays_flatMap (fun t ht => ?_) ?_)
        · exact (h t (List.mem_cons_of_mem _ ht)).imp hcomma.append hcomma.append_strays
        · obtain ⟨t, ht, hstray⟩ := hstray
          rcases List.mem_cons.mp ht with rfl | ht
          · exact absurd hstray hclean.not_strays
          · exact ⟨t, ht, hcomma.append_strays hstray⟩
      · exact hhead.append _
  exact (hopen.append_strays hitems).append _

/-- **An array of what is written for its items.** -/
lemma outcome_array {xs : List Value} {texts : List (List Char)}
    (h : List.Forall₂ (fun x text => Outcome (isFinite x) text) xs texts) :
    Outcome (xs.all isFinite) ('[' :: separated [',', ' '] texts ++ [']']) := by
  constructor
  · intro hfinite
    have hitems : ∀ text ∈ texts, IsStandard text := fun text htext => by
      obtain ⟨x, hx, houtcome⟩ := exists_mem_of_forall₂ h text htext
      exact houtcome.standard (List.all_eq_true.mp hfinite x hx)
    cases texts with
    | nil => exact .emptyArray isSpaces_nil
    | cons text texts =>
      rw [separated_comma]
      refine .array (hitems _ List.mem_cons_self) fun item hitem => ?_
      obtain ⟨t, ht, rfl⟩ := List.mem_map.mp hitem
      exact (hitems t (List.mem_cons_of_mem _ ht)).space
  · intro hfinite
    obtain ⟨x, hx, hnot⟩ := List.all_eq_false.mp hfinite
    obtain ⟨text, htext, houtcome⟩ := exists_mem_of_forall₂ h.flip x hx
    refine strays_bracketed (by decide) (fun t ht => ?_)
      ⟨text, htext, houtcome.strays (Bool.eq_false_iff.mpr hnot)⟩
    obtain ⟨_, -, hother⟩ := exists_mem_of_forall₂ h t ht
    exact hother.isClean_or_strays

/-- A text is what is written for an entry. -/
inductive IsEntryOf (e : Value × Value) : List Char → Prop where
  /-- A name, a colon, and the outcome of the value. -/
  | parts {key cs : List Char} (hkey : IsText key) (houtcome : Outcome (isFinite e.2) cs) :
      IsEntryOf e (key ++ ':' :: ' ' :: cs)

section IsEntryOf

variable {e : Value × Value} {text : List Char}

/-- An entry ends its texts, or has a letter that strays. -/
lemma IsEntryOf.isClean_or_strays (h : IsEntryOf e text) : IsClean text ∨ Strays text := by
  obtain ⟨hkey, houtcome⟩ := h
  have hcolon : IsClean [':', ' '] := rfl
  refine houtcome.isClean_or_strays.imp (fun h => ?_) fun h => ?_
  · exact hkey.isClean.append (hcolon.append h)
  · exact hkey.isClean.append_strays (hcolon.append_strays h)

/-- An entry whose value is not finite has a letter that strays. -/
lemma IsEntryOf.strays (h : IsEntryOf e text) (hnot : isFinite e.2 = false) : Strays text := by
  obtain ⟨hkey, houtcome⟩ := h
  have hcolon : IsClean [':', ' '] := rfl
  exact hkey.isClean.append_strays (hcolon.append_strays (houtcome.strays hnot))

/-- With white space in front of it, a finite entry is a name and a value of the standard. -/
lemma IsEntryOf.exists_eq (h : IsEntryOf e text) (hfinite : isFinite e.2 = true)
    {blank : List Char} (hblank : IsSpaces blank) :
    ∃ member, blank ++ text = entryText member ∧ IsName member.1 ∧ IsStandard member.2 := by
  obtain ⟨hkey, houtcome⟩ := h
  next key cs =>
  refine ⟨(blank ++ key, ' ' :: cs), ?_, ?_, (houtcome.standard hfinite).space⟩
  · rw [entryText, List.append_assoc]
  · have hname := IsName.padded hblank hkey isSpaces_nil
    rwa [List.append_nil] at hname

end IsEntryOf

/-- Texts that are entries one by one are the texts of a list of entries. -/
lemma exists_members {texts : List (List Char)}
    (h : ∀ text ∈ texts, ∃ member, text = entryText member ∧ IsName member.1 ∧
      IsStandard member.2) :
    ∃ members : List (List Char × List Char), texts = members.map entryText ∧
      ∀ member ∈ members, IsName member.1 ∧ IsStandard member.2 := by
  induction texts with
  | nil => exact ⟨[], rfl, nofun⟩
  | cons text texts ih =>
    obtain ⟨member, rfl, hmember⟩ := h text List.mem_cons_self
    obtain ⟨members, rfl, hmembers⟩ := ih fun t ht => h t (List.mem_cons_of_mem _ ht)
    exact ⟨member :: members, rfl, List.forall_mem_cons.mpr ⟨hmember, hmembers⟩⟩

/-- **An object of what is written for its entries.** -/
lemma outcome_object {entries : List (Value × Value)} {texts : List (List Char)}
    (h : List.Forall₂ IsEntryOf entries texts) :
    Outcome (entries.all fun e => isFinite e.2) ('{' :: separated [',', ' '] texts ++ ['}']) := by
  constructor
  · intro hfinite
    have hmember : ∀ text ∈ texts, ∀ blank, IsSpaces blank → ∃ member,
        blank ++ text = entryText member ∧ IsName member.1 ∧ IsStandard member.2 := by
      intro text htext blank hblank
      obtain ⟨e, he, hentry⟩ := exists_mem_of_forall₂ h text htext
      exact hentry.exists_eq (List.all_eq_true.mp hfinite e he) hblank
    cases texts with
    | nil => exact .emptyObject isSpaces_nil
    | cons text texts =>
      obtain ⟨first, hfirst, hname, hvalue⟩ := hmember text List.mem_cons_self [] isSpaces_nil
      have hspaced : ∀ spaced ∈ texts.map (' ' :: ·), ∃ member,
          spaced = entryText member ∧ IsName member.1 ∧ IsStandard member.2 := by
        intro spaced hmem
        obtain ⟨t, ht, rfl⟩ := List.mem_map.mp hmem
        exact hmember t (List.mem_cons_of_mem _ ht) [' '] isSpaces_space
      obtain ⟨rest, hrest, hmembers⟩ := exists_members hspaced
      rw [List.nil_append] at hfirst
      rw [separated_comma, hrest, hfirst, List.flatMap_map]
      refine .object ?_ ?_
      · exact List.forall_mem_cons.mpr ⟨hname, fun member hmem => (hmembers member hmem).1⟩
      · exact List.forall_mem_cons.mpr ⟨hvalue, fun member hmem => (hmembers member hmem).2⟩
  · intro hfinite
    obtain ⟨e, he, hnot⟩ := List.all_eq_false.mp hfinite
    obtain ⟨text, htext, hentry⟩ := exists_mem_of_forall₂ h.flip e he
    refine strays_bracketed (by decide) (fun t ht => ?_)
      ⟨text, htext, hentry.strays (Bool.eq_false_iff.mpr hnot)⟩
    obtain ⟨_, -, hother⟩ := exists_mem_of_forall₂ h t ht
    exact hother.isClean_or_strays

mutual

/-- **What is written for a value**, by recursion on the value. -/
lemma outcome_write {v : Value} {cs : List Char} (h : write v = .ok cs) :
    Outcome (isFinite v) cs := by
  -- Values of the other kinds are not written, so `h` rules them out.
  match v with
  | .null =>
    obtain rfl := Except.ok.inj h
    exact outcome_standard .null
  | .bool b =>
    obtain rfl := Except.ok.inj h
    cases b with
    | true => exact outcome_standard .true
    | false => exact outcome_standard .false
  | .int k =>
    obtain rfl := Except.ok.inj h
    exact outcome_standard (isStandard_intDigits k)
  | .float x =>
    obtain rfl := Except.ok.inj h
    exact outcome_double x
  | .sized (.floating .double x) =>
    obtain rfl := Except.ok.inj h
    exact outcome_double x
  | .text s =>
    obtain rfl := Except.ok.inj h
    exact outcome_standard (.text (isText_quoted _))
  | .list xs =>
    rw [write] at h
    obtain ⟨texts, htexts, h⟩ := bind_eq_ok_iff.mp h
    obtain rfl := Except.ok.inj h
    rw [isFinite, allFinite_eq_all]
    exact outcome_array (forall₂_writeAll htexts)
  | .tuple xs =>
    rw [write] at h
    obtain ⟨texts, htexts, h⟩ := bind_eq_ok_iff.mp h
    obtain rfl := Except.ok.inj h
    rw [isFinite, allFinite_eq_all]
    exact outcome_array (forall₂_writeAll htexts)
  | .dict entries =>
    rw [write] at h
    obtain ⟨texts, htexts, h⟩ := bind_eq_ok_iff.mp h
    obtain rfl := Except.ok.inj h
    rw [isFinite, entriesFinite_eq_all]
    exact outcome_object (forall₂_writeEntries htexts)

/-- What is written for the items of an array. -/
lemma forall₂_writeAll {xs : List Value} {texts : List (List Char)}
    (h : writeAll xs = .ok texts) :
    List.Forall₂ (fun x text => Outcome (isFinite x) text) xs texts := by
  match xs with
  | [] =>
    obtain rfl := Except.ok.inj h
    exact .nil
  | x :: xs =>
    rw [writeAll] at h
    obtain ⟨first, hfirst, h⟩ := bind_eq_ok_iff.mp h
    obtain ⟨rest, hrest, h⟩ := bind_eq_ok_iff.mp h
    obtain rfl := Except.ok.inj h
    exact .cons (outcome_write hfirst) (forall₂_writeAll hrest)

/-- What is written for the entries of an object. -/
lemma forall₂_writeEntries {entries : List (Value × Value)} {texts : List (List Char)}
    (h : writeEntries entries = .ok texts) : List.Forall₂ IsEntryOf entries texts := by
  match entries with
  | [] =>
    obtain rfl := Except.ok.inj h
    exact .nil
  | (k, v) :: rest =>
    rw [writeEntries] at h
    obtain ⟨key, hkey, h⟩ := bind_eq_ok_iff.mp h
    obtain ⟨first, hfirst, h⟩ := bind_eq_ok_iff.mp h
    obtain ⟨more, hmore, h⟩ := bind_eq_ok_iff.mp h
    obtain rfl := Except.ok.inj h
    exact .cons (.parts (isText_name hkey) (outcome_write hfirst))
      (forall₂_writeEntries hmore)

end

/-- **A value is written as a document of the standard exactly if all its numbers are finite.** -/
theorem write_isStandard_iff {v : Value} {cs : List Char} (h : write v = .ok cs) :
    IsStandard cs ↔ isFinite v = true := by
  have houtcome := outcome_write h
  refine ⟨fun hstandard => ?_, houtcome.standard⟩
  by_contra hnot
  exact hstandard.isClean.not_strays (houtcome.strays (Bool.eq_false_iff.mpr hnot))

end SeriesClient.Json
