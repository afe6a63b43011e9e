import SeriesClient.Proofs.LineProtocol.Reader
import SeriesClient.Proofs.Number.Digits
import SeriesClient.Proofs.Result

set_option relaxedAutoImplicit false
set_option autoImplicit false

/-!
# Spellings that read back

The names, texts and numbers that points are written with, one at a time: the reader takes in
each of them as what was written.

## Main results

* `SeriesClient.LineReader.foldlM_key`, `SeriesClient.LineReader.foldlM_measurement` — an
  escaped name is taken in as the name.
* `SeriesClient.LineReader.foldlM_quoted` — an escaped text is taken in as the text.
* `SeriesClient.LineReader.isToken_positional`, `SeriesClient.LineReader.isToken_integer`,
  `SeriesClient.LineReader.isToken_boolean` — the text of a value without quotes has no
  delimiter in it, and is the spelling of the value.
-/

namespace SeriesClient

namespace LineReader

/-! ## Character by character -/

/-- Takes in several characters of a name or value. -/
def State.pushAll (s : State) (cs : List Char) : State :=
  { s with word := s.word ++ cs, escaped := false }

/-- Taking in no character changes nothing, unless a backslash is remembered. -/
lemma State.pushAll_nil {s : State} (he : s.escaped = false) : s.pushAll [] = s := by
  cases s
  simp_all [State.pushAll]

/-- Taking in a character and then others is taking in all of them. -/
lemma State.pushAll_push (s : State) (c : Char) (cs : List Char) :
    (s.push c).pushAll cs = s.pushAll (c :: cs) := by
  simp [State.pushAll, State.push]

/-- **An escaped text is taken in as the text** wherever each of its characters is.

**Proof sketch.** Induction on the text; the state after a character is one like the state
before it, so the hypothesis applies again. -/
lemma foldlM_flatMap (spell : Char → List Char) {cs : List Char} {s : State}
    (he : s.escaped = false)
    (h : ∀ c ∈ cs, ∀ t : State, t.place = s.place → t.escaped = false →
      (spell c).foldlM step t = some (t.push c)) :
    (cs.flatMap spell).foldlM step s = some (s.pushAll cs) := by
  induction cs generalizing s with
  | nil => simp [State.pushAll_nil he]
  | cons c cs ih =>
    have hhead := h c List.mem_cons_self s rfl he
    have htail := ih (s := s.push c) rfl fun c' hc' => h c' (List.mem_cons_of_mem _ hc')
    rw [List.flatMap_cons, List.foldlM_append, hhead]
    simpa [State.pushAll_push] using htail

/-- The same for a text that is not escaped. -/
lemma foldlM_plain {cs : List Char} {s : State} (he : s.escaped = false)
    (h : ∀ c ∈ cs, ∀ t : State, t.place = s.place → t.escaped = false →
      step t c = some (t.push c)) :
    cs.foldlM step s = some (s.pushAll cs) := by
  have hspell := foldlM_flatMap (fun c => [c]) he fun c hc t hp ht => by
    simpa using h c hc t hp ht
  simpa using hspell

/-! ## Names -/

/-- Whether a name is being read. -/
def Place.isName : Place → Bool
  | .measurement | .tagKey | .tagValue _ | .fieldKey => true
  | _ => false

/-- In a name, a character is taken in as one of a name. -/
lemma step_of_isName {s : State} (hname : s.place.isName = true) (c : Char) :
    step s c = nameChar s c := by
  unfold step
  split <;> simp_all [Place.isName]

/-- An escape is taken in as the character that it stands for. -/
lemma foldlM_escape {s : State} (hname : s.place.isName = true) (he : s.escaped = false)
    {e d : Char} (hd : unescaped? e = some d) :
    ['\\', e].foldlM step s = some (s.push d) := by
  have hfirst : step s '\\' = some s.escape := by
    rw [step_of_isName hname]
    simp [nameChar, he, plainChar]
  have hsecond : step s.escape e = some (s.push d) := by
    rw [step_of_isName (by exact hname)]
    simp [nameChar, State.escape, hd, State.push]
  simp [hfirst, hsecond]

/-- A character that is no delimiter and no backslash is taken in as itself. -/
lemma step_plain {s : State} (hname : s.place.isName = true) (he : s.escaped = false)
    {c : Char} (hb : c ≠ '\\') (hc : c ∉ delimiters s.place) :
    step s c = some (s.push c) := by
  rw [step_of_isName hname]
  simp [nameChar, he, plainChar, hb, hc]

/-- A character of a key is taken in as itself. -/
lemma foldlM_keyChar {s : State} (hname : s.place.isName = true) (he : s.escaped = false)
    {c : Char} (hb : c ≠ '\\') :
    (LineText.keyChar c).foldlM step s = some (s.push c) := by
  unfold LineText.keyChar
  split
  case h_7 =>
    have hc : c ∉ delimiters s.place := by
      intro hmem
      unfold delimiters at hmem
      split at hmem <;> simp_all
    simp [step_plain hname he hb hc]
  all_goals exact foldlM_escape hname he rfl

/-- A character of a measurement is taken in as itself. -/
lemma foldlM_measurementChar {s : State} (hplace : s.place = .measurement)
    (he : s.escaped = false) {c : Char} (hb : c ≠ '\\') :
    (LineText.measurementChar c).foldlM step s = some (s.push c) := by
  have hname : s.place.isName = true := by rw [hplace]; rfl
  unfold LineText.measurementChar
  split
  · next heq =>
    subst heq
    have hc : '=' ∉ delimiters s.place := by rw [hplace]; decide
    simp [step_plain hname he hb hc]
  · exact foldlM_keyChar hname he hb

/-- **An escaped key is taken in as the key**, if there is no backslash in it. -/
theorem foldlM_key {s : State} (hname : s.place.isName = true) (he : s.escaped = false)
    {cs : List Char} (hb : '\\' ∉ cs) :
    (LineText.key cs).foldlM step s = some (s.pushAll cs) :=
  foldlM_flatMap _ he fun _ hc _ hp ht =>
    foldlM_keyChar (by rw [hp]; exact hname) ht (ne_of_mem_of_not_mem hc hb)

/-- **An escaped measurement is taken in as the measurement**, if there is no backslash in
it. -/
theorem foldlM_measurement {s : State} (hplace : s.place = .measurement) (he : s.escaped = false)
    {cs : List Char} (hb : '\\' ∉ cs) :
    (LineText.measurement cs).foldlM step s = some (s.pushAll cs) :=
  foldlM_flatMap _ he fun _ hc _ hp ht =>
    foldlM_measurementChar (hp.trans hplace) ht (ne_of_mem_of_not_mem hc hb)

/-! ## Texts between quotes -/

/-- A character of a text between quotes is taken in as itself. -/
lemma foldlM_quotedChar {s : State} {key : String} (hplace : s.place = .quoted key)
    (he : s.escaped = false) (c : Char) :
    (LineText.quotedChar c).foldlM step s = some (s.push c) := by
  have hescape : ∀ d, d = '"' ∨ d = '\\' → ['\\', d].foldlM step s = some (s.push d) := by
    intro d hd
    simp [step, hplace, quotedChar, he, State.escape, State.push, hd]
  unfold LineText.quotedChar
  split
  · exact hescape '\\' (.inr rfl)
  · exact hescape '"' (.inl rfl)
  · next hb hq => simp_all [step, quotedChar]

/-- **An escaped text is taken in as the text**, whatever is in it. -/
theorem foldlM_quoted {s : State} {key : String} (hplace : s.place = .quoted key)
    (he : s.escaped = false) (cs : List Char) :
    (cs.flatMap LineText.quotedChar).foldlM step s = some (s.pushAll cs) :=
  foldlM_flatMap _ he fun c _ _ hp ht => foldlM_quotedChar (hp.trans hplace) ht c

/-! ## Integers -/

/-- The characters of an integer are digits and a minus sign. -/
lemma isFloatChar_of_mem_intDigits {n : Int} {c : Char} (hc : c ∈ intDigits n) :
    FieldReading.isFloatChar c = true := by
  have hdigit : ∀ c ∈ natDigits n.natAbs, FieldReading.isFloatChar c = true := fun c hc => by
    simp [FieldReading.isFloatChar, isDigit_of_mem_natDigits hc]
  unfold intDigits at hc
  split at hc
  · rcases List.mem_cons.1 hc with rfl | hc
    · decide
    · exact hdigit c hc
  · exact hdigit c hc

/-! ## Field values without quotes -/

/-- A text that is read as a field value without quotes: nothing in it ends the value or opens
a quote, and it spells the value. -/
structure IsToken (cs : List Char) (r : FieldReading) : Prop where
  /-- There is something to read. -/
  ne_nil : cs ≠ []
  /-- Nothing ends the value before its end. -/
  no_stop : ∀ c ∈ cs, c ∉ [',', ' ', '\n', '"']
  /-- The text spells the value. -/
  ofToken? : FieldReading.ofToken? cs = some r

/-- A digit, a point or a sign ends no value. -/
lemma not_mem_stops_of_isFloatChar {c : Char} (hc : FieldReading.isFloatChar c = true) :
    c ∉ [',', ' ', '\n', '"'] := by
  intro hmem
  simp only [List.mem_cons, List.not_mem_nil, or_false] at hmem
  rcases hmem with rfl | rfl | rfl | rfl <;> exact absurd hc (by decide)

/-- Digits with a point and a sign spell a floating-point number. -/
lemma isToken_float {cs : List Char} (hne : cs ≠ [])
    (hall : ∀ c ∈ cs, FieldReading.isFloatChar c = true) :
    IsToken cs (.float (String.ofList cs)) := by
  have htrue : cs ≠ "true".toList := by
    rintro rfl
    exact absurd (hall 't' (by decide)) (by decide)
  have hfalse : cs ≠ "false".toList := by
    rintro rfl
    exact absurd (hall 'f' (by decide)) (by decide)
  have hlast : cs.getLast? ≠ some 'i' := fun h =>
    absurd (hall 'i' (List.mem_of_getLast? h)) (by decide)
  have hfloat : FieldReading.isFloatText cs = true := by
    simp [FieldReading.isFloatText, hne, List.all_eq_true.2 hall]
  refine ⟨hne, fun c hc => not_mem_stops_of_isFloatChar (hall c hc), ?_⟩
  simp only [FieldReading.ofToken?, htrue, hfalse, hlast, hfloat, if_false, if_true]

/-- Positional notation spells a floating-point number. -/
lemma isToken_of_isNumeral {cs : List Char} (h : IsNumeral cs) :
    IsToken cs (.float (String.ofList cs)) := by
  obtain ⟨negative, whole, fraction, -, -, hdigits, rfl⟩ := h
  refine isToken_float (by simp) fun c hc => ?_
  have hdigit : ∀ c ∈ whole ++ fraction, FieldReading.isFloatChar c = true := fun c hc => by
    simp [FieldReading.isFloatChar, hdigits c hc]
  simp only [List.mem_append, List.mem_cons] at hc hdigit
  rcases hc with (hsign | hwhole) | rfl | hfraction
  · cases negative with
    | false => simp [Floating.signText] at hsign
    | true =>
      rw [List.mem_singleton.1 hsign]
      rfl
  · exact hdigit c (.inl hwhole)
  · rfl
  · exact hdigit c (.inr hfraction)

/-- The spellings of numbers that are not finite are read as what they are. -/
lemma isToken_not_finite {cs : List Char}
    (h : cs = ['n', 'a', 'n'] ∨ cs = ['i', 'n', 'f'] ∨ cs = ['-', 'i', 'n', 'f']) :
    IsToken cs (.float (String.ofList cs)) := by
  rcases h with rfl | rfl | rfl <;> exact ⟨by decide, by simp, rfl⟩

/-- The positional spelling of a number spells that number. -/
theorem isToken_positional (f : Format) (x : Floating) :
    IsToken (x.positional f) (.float (String.ofList (x.positional f))) := by
  cases x with
  | nan => exact isToken_not_finite (.inl rfl)
  | infinite negative =>
    cases negative with
    | false => exact isToken_not_finite (.inr (.inl rfl))
    | true => exact isToken_not_finite (.inr (.inr rfl))
  | finite negative m q => exact isToken_of_isNumeral (Floating.isNumeral_positional f rfl)

/-- The digits of an integer with an `i` behind them spell that integer. -/
theorem isToken_integer (n : Int) : IsToken (intDigits n ++ ['i']) (.integer n) := by
  have hlast : (intDigits n ++ ['i']).getLast? = some 'i' := List.getLast?_concat
  have hdrop : (intDigits n ++ ['i']).dropLast = intDigits n := List.dropLast_concat
  have htrue : intDigits n ++ ['i'] ≠ "true".toList := fun h => by
    rw [h] at hlast
    exact absurd hlast (by decide)
  have hfalse : intDigits n ++ ['i'] ≠ "false".toList := fun h => by
    rw [h] at hlast
    exact absurd hlast (by decide)
  refine ⟨by simp, fun c hc => ?_, ?_⟩
  · rcases List.mem_append.1 hc with hc | hc
    · exact not_mem_stops_of_isFloatChar (isFloatChar_of_mem_intDigits hc)
    · rw [List.mem_singleton.1 hc]
      decide
  · simp only [FieldReading.ofToken?, htrue, hfalse, hlast, hdrop, if_false, if_true,
      signed?_intDigits, Option.map_some]

/-- The two truth values are spelled as they are. -/
theorem isToken_boolean (b : Bool) :
    IsToken (if b then "true".toList else "false".toList) (.boolean b) := by
  cases b <;> exact ⟨by decide, by simp, rfl⟩

end LineReader

end SeriesClient
