import Mathlib.Data.List.DropRight
import SeriesClient.Proofs.LineProtocol.Line
import SeriesClient.Proofs.LineProtocol.Tags

set_option relaxedAutoImplicit false
set_option autoImplicit false

/-!
# Which names can be told apart

Names are escaped character by character, and a backslash stands for itself. A backslash that
belongs to a name cannot be told from one of an escape, so some names are written alike, and
some run on into what follows them.

## Main definitions

* `SeriesClient.LineText.resolve` — a text in which escapes are taken for what they mean.
* `SeriesClient.LineText.shown` — what a name is taken for once it is written.
* `SeriesClient.LineText.IsPlain` — a name without anything that looks like an escape.
* `SeriesClient.LineText.trailing` — how many backslashes a text ends in.
* `SeriesClient.LineText.Spells` — a way to escape names.

## Main results

* `SeriesClient.LineText.Spells.flatMap_eq_iff` — names are written alike if they are taken for the
  same.
* `SeriesClient.LineText.Spells.trailing_flatMap` — a name is written with the backslashes that it
  ends in.
* `SeriesClient.LineReader.foldlM_key_shown` — what a written name is read as.
* `SeriesClient.LineText.told_apart` — which keys are told apart, and which of them end where they
  should.

## Design

A name that holds a backslash and the letter `n` is written as one that holds a line end, and
likewise for the letters `r` and `t`. Taking the first for the second does not change what is
written, and leads to a name that can be read back from what is written.
-/

namespace SeriesClient

namespace LineText

/-! ## Escapes -/

/-- The line end, carriage return or tab that a letter stands for. -/
def control? : Char → Option Char
  | 'n' => some '\n'
  | 'r' => some '\r'
  | 't' => some '\t'
  | _ => none

/-- A text in which a backslash gives the character behind it a meaning, if this character has one,
and otherwise stands for itself. -/
def resolve (meaning : Char → Option Char) : List Char → List Char
  | [] => []
  | [c] => [c]
  | c :: d :: cs =>
    if c = '\\' then
      match meaning d with
      | some e => e :: resolve meaning cs
      | none => c :: resolve meaning (d :: cs)
    else c :: resolve meaning (d :: cs)

/-- What a name is taken for once it is written: a letter behind a backslash stands for a line end,
a carriage return or a tab. -/
def shown (cs : List Char) : List Char := resolve control? cs

/-- A name in which no backslash stands before a letter to which it gives a meaning. -/
def IsPlain (cs : List Char) : Prop := ∀ c d, control? c = some d → ¬ ['\\', c] <:+: cs

/-- How many backslashes a text ends in. -/
def trailing (cs : List Char) : Nat := (cs.rtakeWhile (· == '\\')).length

/-- A text ends in no backslash if its last character is another one. -/
lemma trailing_eq_zero_iff (cs : List Char) : trailing cs = 0 ↔ cs.getLast? ≠ some '\\' := by
  rw [trailing, List.length_eq_zero_iff, List.rtakeWhile_eq_nil_iff]
  cases cs with
  | nil => simp
  | cons c cs => simp [List.getLast?_eq_some_getLast]

section Resolve

variable (meaning : Char → Option Char)

/-- A character that is no backslash stands for itself. -/
lemma resolve_cons_of_ne {c : Char} (hc : c ≠ '\\') (cs : List Char) :
    resolve meaning (c :: cs) = c :: resolve meaning cs := by
  cases cs with
  | nil => rfl
  | cons d cs => rw [resolve, if_neg hc]

/-- An escape stands for what it means. -/
lemma resolve_escape {d e : Char} (hd : meaning d = some e) (cs : List Char) :
    resolve meaning ('\\' :: d :: cs) = e :: resolve meaning cs := by
  simp [resolve, hd]

/-- A backslash before a character that it gives no meaning stands for itself. -/
lemma resolve_literal {d : Char} (hd : meaning d = none) (cs : List Char) :
    resolve meaning ('\\' :: d :: cs) = '\\' :: resolve meaning (d :: cs) := by
  simp [resolve, hd]

/-- A text that is not empty stands for one that is not empty. -/
lemma resolve_cons_ne_nil (c : Char) (cs : List Char) : resolve meaning (c :: cs) ≠ [] := by
  cases cs with
  | nil => nofun
  | cons d cs =>
    unfold resolve
    split
    · split <;> nofun
    · nofun

end Resolve

/-- What a letter behind a backslash stands for is no backslash. -/
lemma ne_backslash_of_control {c d : Char} (h : control? c = some d) :
    c ≠ '\\' ∧ d ≠ '\\' := by
  unfold control? at h
  split at h <;> cases h <;> decide

/-- A name is plain if it does not begin with an escape and is plain behind its first character. -/
lemma isPlain_cons (c d : Char) (cs : List Char) :
    IsPlain (c :: d :: cs) ↔ (c = '\\' → control? d = none) ∧ IsPlain (d :: cs) := by
  constructor
  · intro hplain
    refine ⟨?_, fun e f he hinfix => hplain e f he (List.infix_cons hinfix)⟩
    rintro rfl
    rcases he : control? d with _ | e
    · rfl
    · exact absurd ⟨[], cs, rfl⟩ (hplain d e he)
  · rintro ⟨hfirst, hrest⟩ e f he hinfix
    rcases List.infix_cons_iff.1 hinfix with hprefix | hinfix
    · obtain ⟨hc, hprefix⟩ := List.cons_prefix_cons.1 hprefix
      obtain ⟨rfl, -⟩ := List.cons_prefix_cons.1 hprefix
      rw [hfirst hc.symm] at he
      cases he
    · exact hrest e f he hinfix

/-- **A name is taken for itself if it is plain.**

**Proof sketch.** Induction along `resolve`. Where an escape is resolved, a backslash gives way to
another character. -/
lemma shown_eq_self_iff (cs : List Char) : shown cs = cs ↔ IsPlain cs := by
  unfold shown
  induction cs using resolve.induct control? with
  | case1 => exact ⟨fun _ c d _ hinfix => by simp at hinfix, fun _ => rfl⟩
  | case2 c => exact ⟨fun _ c d _ hinfix => by simpa using hinfix.length_le, fun _ => rfl⟩
  | case3 d cs e hd ih =>
    rw [resolve_escape _ hd]
    refine ⟨fun heq => ?_, fun hplain => ?_⟩
    · exact absurd (List.cons.inj heq).1 (ne_backslash_of_control hd).2
    · exact absurd ⟨[], cs, rfl⟩ (hplain d e hd)
  | case4 d cs hd ih =>
    rw [resolve_literal _ hd, List.cons.injEq, isPlain_cons, ih]
    simp [hd]
  | case5 c d cs hc ih =>
    rw [resolve_cons_of_ne _ hc, List.cons.injEq, isPlain_cons, ih]
    simp [hc]

/-! ## Ways to escape names -/

/-- A way to escape names, character by character, that leaves the backslash as it is, together with
the meaning of the escapes. -/
structure Spells (spell : Char → List Char) (meaning : Char → Option Char) : Prop where
  /-- A backslash is left as it is. -/
  backslash : spell '\\' = ['\\']
  /-- Every other character can be read from what it is written as. -/
  resolve_append : ∀ c, c ≠ '\\' → ∀ cs, resolve meaning (spell c ++ cs) = c :: resolve meaning cs
  /-- A line end, carriage return or tab is written as a letter behind a backslash, and the letter
  is left as it is. -/
  control : ∀ c d, control? c = some d →
    spell c = [c] ∧ spell d = ['\\', c] ∧ meaning c = some d
  /-- What another character is written as does not begin with a character to which a backslash
  gives a meaning. -/
  meaningless : ∀ c, control? c = none → ∃ d cs, spell c = d :: cs ∧ meaning d = none
  /-- What a character other than a backslash is written as does not end in a backslash. -/
  ends : ∀ c, c ≠ '\\' → ∃ cs d, spell c = cs ++ [d] ∧ d ≠ '\\'

namespace Spells

variable {spell : Char → List Char} {meaning : Char → Option Char}

/-- **A written name is read as what it is taken for.** -/
lemma resolve_flatMap (h : Spells spell meaning) (cs : List Char) :
    resolve meaning (cs.flatMap spell) = shown cs := by
  unfold shown
  induction cs using resolve.induct control? with
  | case1 => rfl
  | case2 c =>
    by_cases hc : c = '\\'
    · rw [hc, List.flatMap_singleton, h.backslash]
      rfl
    · have hread := h.resolve_append c hc []
      rw [List.append_nil] at hread
      rw [List.flatMap_singleton, hread]
      rfl
  | case3 d cs e hd ih =>
    obtain ⟨hletter, -, hmeaning⟩ := h.control d e hd
    rw [List.flatMap_cons, List.flatMap_cons, h.backslash, hletter]
    show resolve meaning ('\\' :: d :: cs.flatMap spell) = _
    rw [resolve_escape _ hmeaning, resolve_escape _ hd, ih]
  | case4 d cs hd ih =>
    obtain ⟨e, es, hspell, hmeaning⟩ := h.meaningless d hd
    rw [List.flatMap_cons, h.backslash, resolve_literal _ hd, ← ih, List.flatMap_cons, hspell]
    exact resolve_literal _ hmeaning _
  | case5 c d cs hc ih =>
    rw [List.flatMap_cons, h.resolve_append c hc, ih, resolve_cons_of_ne _ hc]

/-- **A name is written like what it is taken for.** -/
lemma flatMap_shown (h : Spells spell meaning) (cs : List Char) :
    (shown cs).flatMap spell = cs.flatMap spell := by
  unfold shown
  induction cs using resolve.induct control? with
  | case1 => rfl
  | case2 c => rfl
  | case3 d cs e hd ih =>
    obtain ⟨hletter, hcontrol, -⟩ := h.control d e hd
    rw [resolve_escape _ hd, List.flatMap_cons, ih, hcontrol, List.flatMap_cons, List.flatMap_cons,
      h.backslash, hletter]
    rfl
  | case4 d cs hd ih => rw [resolve_literal _ hd, List.flatMap_cons, ih, ← List.flatMap_cons]
  | case5 c d cs hc ih =>
    rw [resolve_cons_of_ne _ hc, List.flatMap_cons, ih, ← List.flatMap_cons]

/-- **Names are written alike if and only if they are taken for the same.** -/
theorem flatMap_eq_iff (h : Spells spell meaning) (cs ds : List Char) :
    cs.flatMap spell = ds.flatMap spell ↔ shown cs = shown ds := by
  constructor
  · intro heq
    rw [← h.resolve_flatMap, heq, h.resolve_flatMap]
  · intro heq
    rw [← h.flatMap_shown, heq, h.flatMap_shown]

/-- **A name is written with the backslashes that it ends in** at its end, and no others. -/
theorem trailing_flatMap (h : Spells spell meaning) (cs : List Char) :
    trailing (cs.flatMap spell) = trailing cs := by
  induction cs using List.reverseRecOn with
  | nil => rfl
  | append_singleton cs c ih =>
    by_cases hc : c = '\\'
    · rw [hc, List.flatMap_append, List.flatMap_singleton, h.backslash]
      simpa [trailing] using ih
    · obtain ⟨es, e, hspell, he⟩ := h.ends c hc
      rw [List.flatMap_append, List.flatMap_singleton, hspell, ← List.append_assoc]
      simp [trailing, he, hc]

/-- What a name is taken for ends in as many backslashes. -/
lemma trailing_shown (h : Spells spell meaning) (cs : List Char) :
    trailing (shown cs) = trailing cs := by
  rw [← h.trailing_flatMap, h.flatMap_shown, h.trailing_flatMap]

end Spells

/-- A character of a key is written as an escape that means it, or as itself. In the second case a
backslash gives it no meaning, unless it is one of the letters. -/
lemma keyChar_cases (c : Char) :
    (∃ e, keyChar c = ['\\', e] ∧ LineReader.unescaped? e = some c ∧ e ≠ '\\') ∨
      keyChar c = [c] ∧ (control? c = none → LineReader.unescaped? c = none) := by
  unfold keyChar
  split
  case h_7 _ _ _ hspace hcomma hequals =>
    refine .inr ⟨rfl, fun h => ?_⟩
    unfold LineReader.unescaped?
    split
    case h_4 => exact absurd rfl hspace
    case h_5 => exact absurd rfl hcomma
    case h_6 => exact absurd rfl hequals
    case h_7 => rfl
    all_goals cases h
  all_goals exact .inl ⟨_, rfl, rfl, by decide⟩

/-- Keys are escaped in this way. -/
lemma spells_key : Spells keyChar LineReader.unescaped? where
  backslash := rfl
  resolve_append c hc cs := by
    rcases keyChar_cases c with ⟨e, hkey, he, -⟩ | ⟨hkey, -⟩
    · rw [hkey]
      exact resolve_escape _ he cs
    · rw [hkey]
      exact resolve_cons_of_ne _ hc cs
  control c d h := by
    unfold control? at h
    split at h <;> cases h <;> exact ⟨rfl, rfl, rfl⟩
  meaningless c h := by
    rcases keyChar_cases c with ⟨e, hkey, -, -⟩ | ⟨hkey, hnone⟩
    · exact ⟨_, _, hkey, rfl⟩
    · exact ⟨c, [], hkey, hnone h⟩
  ends c hc := by
    rcases keyChar_cases c with ⟨e, hkey, -, he⟩ | ⟨hkey, -⟩
    · exact ⟨['\\'], e, hkey, he⟩
    · exact ⟨[], c, hkey, hc⟩

/-- The meaning of the escapes in a measurement, where an equals sign is not escaped. -/
def measurementMeaning? (c : Char) : Option Char :=
  if c = '=' then none else LineReader.unescaped? c

/-- Measurements are escaped in this way. -/
lemma spells_measurement : Spells measurementChar measurementMeaning? where
  backslash := rfl
  resolve_append c hc cs := by
    by_cases hequals : c = '='
    · rw [hequals, measurementChar, if_pos rfl]
      exact resolve_cons_of_ne _ (by decide) cs
    · rw [measurementChar, if_neg hequals]
      rcases keyChar_cases c with ⟨e, hkey, he, -⟩ | ⟨hkey, -⟩
      · have hmeaning : measurementMeaning? e = some c := by
          rw [measurementMeaning?, if_neg, he]
          rintro rfl
          exact hequals (Option.some.inj he).symm
        rw [hkey]
        exact resolve_escape _ hmeaning cs
      · rw [hkey]
        exact resolve_cons_of_ne _ hc cs
  control c d h := by
    unfold control? at h
    split at h <;> cases h <;> exact ⟨rfl, rfl, rfl⟩
  meaningless c h := by
    by_cases hequals : c = '='
    · rw [hequals]
      exact ⟨'=', [], rfl, rfl⟩
    · rw [measurementChar, if_neg hequals]
      obtain ⟨d, cs, hkey, hd⟩ := spells_key.meaningless c h
      exact ⟨d, cs, hkey, by rw [measurementMeaning?, hd, ite_self]⟩
  ends c hc := by
    by_cases hequals : c = '='
    · rw [hequals]
      exact ⟨[], '=', rfl, by decide⟩
    · rw [measurementChar, if_neg hequals]
      exact spells_key.ends c hc

end LineText

namespace LineReader

/-! ## Reading names -/

/-- A remembered backslash before a character to which it gives no meaning is taken in as itself. -/
lemma step_escape {s : State} (hname : s.place.isName = true) {c : Char}
    (hc : unescaped? c = none) : step s.escape c = step (s.push '\\') c := by
  have hpending : s.escape.push '\\' = s.push '\\' := rfl
  have hescaped : s.escape.escaped = true := rfl
  have hpushed : (s.push '\\').escaped = false := rfl
  rw [step_of_isName (by exact hname), step_of_isName (by exact hname)]
  simp only [nameChar, hescaped, hpushed, hc, hpending, if_true, Bool.false_eq_true, if_false]

/-- What has been taken in of a name that is taken for the given characters: a backslash at its end
is only remembered. -/
def State.taken (s : State) (cs : List Char) : State :=
  if cs.getLast? = some '\\' then (s.pushAll cs.dropLast).escape else s.pushAll cs

/-- Taking in a character and then others is taking in all of them. -/
lemma State.taken_push (s : State) {c : Char} {cs : List Char} (h : cs = [] → c ≠ '\\') :
    (s.push c).taken cs = s.taken (c :: cs) := by
  cases cs with
  | nil =>
    have hc : ¬ [c].getLast? = some '\\' := fun hc => h rfl (Option.some.inj hc)
    rw [taken, taken, if_neg nofun, if_neg hc, pushAll_push]
  | cons d cs => simp only [taken, List.getLast?_cons_cons, List.dropLast_cons_cons, pushAll_push]

/-- A backslash that nothing stands before is remembered. -/
lemma step_backslash {s : State} (hname : s.place.isName = true) (he : s.escaped = false) :
    step s '\\' = some s.escape := by
  rw [step_of_isName hname]
  simp [nameChar, he, plainChar]

/-- **A written name is taken in as what it is taken for**, up to a backslash at its end.

**Proof sketch.** Induction along `LineText.resolve`. A backslash that is remembered before a
character without a meaning is taken in when this character comes (`step_escape`). -/
theorem foldlM_key_shown {s : State} (hname : s.place.isName = true) (he : s.escaped = false)
    (cs : List Char) :
    (LineText.key cs).foldlM step s = some (s.taken (LineText.shown cs)) := by
  unfold LineText.shown
  induction cs using LineText.resolve.induct LineText.control? generalizing s with
  | case1 => exact congrArg some (s.pushAll_nil he).symm
  | case2 c =>
    by_cases hc : c = '\\'
    · subst hc
      have hnone : s.pushAll [] = s := s.pushAll_nil he
      show (step s '\\').bind _ = some (s.pushAll []).escape
      rw [step_backslash hname he, hnone]
      rfl
    · have hkey := foldlM_keyChar hname he hc
      have htaken : s.taken [c] = s.push c := by
        rw [← s.taken_push fun _ => hc]
        exact (s.push c).pushAll_nil rfl
      rw [LineText.key, List.flatMap_singleton, hkey]
      exact congrArg some htaken.symm
  | case3 d cs e hd ih =>
    obtain ⟨hletter, -, hmeaning⟩ := LineText.spells_key.control d e hd
    have hescape := foldlM_escape hname he hmeaning
    have hrest := ih (s := s.push e) hname rfl
    rw [LineText.resolve_escape _ hd,
      ← s.taken_push fun _ => (LineText.ne_backslash_of_control hd).2, ← hrest]
    have hkey : LineText.key ('\\' :: d :: cs) = ['\\', d] ++ LineText.key cs := by
      rw [LineText.key, List.flatMap_cons, List.flatMap_cons, LineText.spells_key.backslash,
        hletter]
      rfl
    rw [hkey, List.foldlM_append, hescape]
    rfl
  | case4 d cs hd ih =>
    obtain ⟨f, fs, hspell, hmeaning⟩ := LineText.spells_key.meaningless d hd
    have hrest := ih (s := s.push '\\') hname rfl
    rw [LineText.resolve_literal _ hd,
      ← s.taken_push fun hnil => absurd hnil (LineText.resolve_cons_ne_nil _ d cs), ← hrest]
    have hkey : LineText.key (d :: cs) = f :: (fs ++ LineText.key cs) := by
      rw [LineText.key, List.flatMap_cons, hspell]
      rfl
    show ((step s '\\').bind fun s => (LineText.key (d :: cs)).foldlM step s) = _
    rw [step_backslash hname he, hkey, Option.bind_some, List.foldlM_cons, List.foldlM_cons,
      step_escape hname hmeaning]
  | case5 c d cs hc ih =>
    have hkey := foldlM_keyChar hname he hc
    have hrest := ih (s := s.push c) hname rfl
    rw [LineText.resolve_cons_of_ne _ hc, ← s.taken_push fun _ => hc, ← hrest, LineText.key,
      List.flatMap_cons, List.foldlM_append, hkey]
    rfl

/-- The delimiter behind a written name ends it, unless the name ends in a backslash: then the
delimiter belongs to the name. -/
lemma step_taken {s : State} (hname : s.place.isName = true) (cs : List Char) {d : Char}
    (hd : d = ',' ∨ d = '=') :
    step (s.taken (LineText.shown cs)) d =
      if LineText.trailing cs = 0 then plainChar (s.pushAll (LineText.shown cs)) d
      else some (s.pushAll ((LineText.shown cs).dropLast ++ [d])) := by
  have hmeaning : unescaped? d = some d := by rcases hd with rfl | rfl <;> rfl
  have hends : LineText.trailing cs = 0 ↔ (LineText.shown cs).getLast? ≠ some '\\' := by
    rw [← LineText.spells_key.trailing_shown, LineText.trailing_eq_zero_iff]
  rw [State.taken]
  by_cases hlast : (LineText.shown cs).getLast? = some '\\'
  · rw [if_pos hlast, if_neg fun hzero => hends.1 hzero hlast, step_of_isName (by exact hname)]
    simp [nameChar, State.escape, hmeaning, State.push, State.pushAll]
  · rw [if_neg hlast, if_pos (hends.2 hlast), step_of_isName (by exact hname)]
    simp [nameChar, State.pushAll]

end LineReader

namespace LineText

/-- **Which names are told apart, and which end where they should.** Two keys are written alike if
and only if they are the same once each letter `n`, `r` or `t` behind a backslash is taken for
what it would mean there, and likewise for two measurements. A key is written with the
backslashes that it ends in at its end. If there are none, then the delimiter behind it is read as
its end; otherwise the delimiter is read as a part of it. -/
theorem told_apart (cs ds : List Char) :
    (key cs = key ds ↔ shown cs = shown ds) ∧
    (measurement cs = measurement ds ↔ shown cs = shown ds) ∧
    (shown cs = cs ↔ IsPlain cs) ∧
    trailing (key cs) = trailing cs ∧
    ∀ (records : List LineRecord) (current : LineRecord) (name : String),
      (key cs ++ ['=']).foldlM LineReader.step (.fresh records current .tagKey) =
        some (if trailing cs = 0 then
          .fresh records current (.tagValue (String.ofList (shown cs)))
        else (LineReader.State.fresh records current .tagKey).pushAll
          ((shown cs).dropLast ++ ['='])) ∧
      (key cs ++ [',']).foldlM LineReader.step (.fresh records current (.tagValue name)) =
        some (if trailing cs = 0 then
          .fresh records
            { current with tags := current.tags ++ [(name, String.ofList (shown cs))] } .tagKey
        else (LineReader.State.fresh records current (.tagValue name)).pushAll
          ((shown cs).dropLast ++ [','])) := by
  refine ⟨spells_key.flatMap_eq_iff cs ds, spells_measurement.flatMap_eq_iff cs ds,
    shown_eq_self_iff cs, spells_key.trailing_flatMap cs, fun records current name => ⟨?_, ?_⟩⟩
  · rw [List.foldlM_append, LineReader.foldlM_key_shown rfl rfl]
    show (LineReader.step _ '=').bind _ = _
    rw [LineReader.step_taken rfl cs (.inr rfl)]
    split
    · rfl
    · rfl
  · rw [List.foldlM_append, LineReader.foldlM_key_shown rfl rfl]
    show (LineReader.step _ ',').bind _ = _
    rw [LineReader.step_taken rfl cs (.inl rfl)]
    split
    · rfl
    · rfl

/-! ## Names that are not told apart -/

/-- A point of one field with the given tags. -/
def tagged (tags : List (String × String)) : Point :=
  let pv := ((PointValues.new (.text "m")).run (.setField (.text "f") (.int 1))).2
  ⟨{ pv with tags := ⟨tags.map fun tag => (.text tag.1, .text tag.2)⟩ }⟩

/-- The line of such a point. -/
lemma line_tagged (tags : List (String × String)) {entries : List (Value × Value)}
    (h : sortEntries ((tagged tags).effectiveTags ⟨[]⟩).entries = .ok entries) :
    (tagged tags).line .null .null =
      (entries.mapM Point.tagText).map fun texts =>
        "m".toList ++ texts.flatten ++ " f=1i".toList := by
  have hline : (tagged tags).line .null .null =
      (sortEntries ((tagged tags).effectiveTags ⟨[]⟩).entries).bind fun entries =>
        (entries.mapM Point.tagText).bind fun texts =>
          .ok ("m".toList ++ texts.flatten ++ " f=1i".toList ++ []) := rfl
  simp only [hline, h, List.append_nil]
  rfl

/-- **Some names are written alike, and some run on.** The name that is a line end is written like
the one that is a backslash and an `n`, as a key and as a measurement, and so are the keys of two
tags of one point. A key that ends in a backslash is written with this backslash at its end, and a
tag whose value does so makes its line unreadable. -/
theorem not_told_apart :
    ¬ (∀ cs ds : List Char, cs ≠ ds → key cs ≠ key ds) ∧
    ¬ (∀ cs ds : List Char, cs ≠ ds → measurement cs ≠ measurement ds) ∧
    ¬ (∀ cs : List Char, trailing (key cs) % 2 = 0) ∧
    (tagged [("\n", "x"), ("\\n", "y")]).line .null .null = .ok "m,\\n=x,\\n=y f=1i".toList ∧
    (tagged [("a", "x\\"), ("b", "y")]).line .null .null = .ok "m,a=x\\,b=y f=1i".toList ∧
    LineReader.read "m,a=x\\,b=y f=1i".toList = none := by
  refine ⟨fun h => ?_, fun h => ?_, fun h => ?_, ?_, ?_, ?_⟩
  · exact h ['\n'] ['\\', 'n'] (by decide) rfl
  · exact h ['\n'] ['\\', 'n'] (by decide) rfl
  · exact absurd (h ['a', '\\']) (by decide)
  · rw [line_tagged [("\n", "x"), ("\\n", "y")]
      (sortEntries_pair (a := ("\n", "x")) (b := ("\\n", "y")) (by decide))]
    rfl
  · rw [line_tagged [("a", "x\\"), ("b", "y")]
      (sortEntries_pair (a := ("a", "x\\")) (b := ("b", "y")) (by decide))]
    rfl
  · decide

end LineText

end SeriesClient
