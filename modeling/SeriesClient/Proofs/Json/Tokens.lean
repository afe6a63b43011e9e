import SeriesClient.Json.Reader
import SeriesClient.Json.Writer
import SeriesClient.Proofs.Number.Numerals

set_option relaxedAutoImplicit false
set_option autoImplicit false

/-!
# Texts, numbers and literals in JSON

What the writer writes for values that are no containers, one token at a time: the reader takes
each of them for the value that was written.

## Main definitions

* `SeriesClient.Json.EndsNumber` — what may follow a number.

## Main results

* `SeriesClient.Json.textBody_escape` — an escaped character is read as the character.
* `SeriesClient.Json.toNat_lt_of_mem_escape` — an escaped character is in ASCII.
* `SeriesClient.Json.token?_quoted` — a text between quotes is read as the text.
* `SeriesClient.Json.token?_intDigits` — the digits of an integer are read as the integer.
* `SeriesClient.Json.token?_double` — the text of a finite double is read as the double.
-/

namespace SeriesClient.Json

/-! ## Code units -/

/-- A hexadecimal digit is read as what it stands for. -/
lemma hexDigit?_digitChar : ∀ n < 16, hexDigit? (Nat.digitChar n) = some n := by
  decide

/-- The last hexadecimal digit, and those before it. -/
lemma hex_succ {width : Nat} (hwidth : 0 < width) (n : Nat) :
    Quoted.hex (width + 1) n = Quoted.hex width (n / 16) ++ [(n % 16).digitChar] := by
  unfold Quoted.hex
  dsimp only
  by_cases hsmall : n < 16
  · obtain ⟨k, rfl⟩ : ∃ k, width = k + 1 := ⟨width - 1, by omega⟩
    rw [Nat.toDigits_of_lt_base hsmall, Nat.div_eq_of_lt hsmall, Nat.mod_eq_of_lt hsmall,
      Nat.toDigits_of_lt_base (by decide)]
    show List.replicate (k + 1) '0' ++ _ = List.replicate k '0' ++ ['0'] ++ _
    rw [← List.replicate_succ']
  · rw [Nat.toDigits_eq_if (b := 16) (n := n) (by decide), if_neg hsmall, List.length_append,
      List.length_singleton, Nat.add_sub_add_right, List.append_assoc]

/-- The four digits of a code unit. -/
lemma hex_eq {n : Nat} (hn : n < 0x10000) :
    Quoted.hex 4 n = [(n / 16 / 16 / 16).digitChar, (n / 16 / 16 % 16).digitChar,
      (n / 16 % 16).digitChar, (n % 16).digitChar] := by
  have hfirst : Quoted.hex 1 (n / 16 / 16 / 16) = [(n / 16 / 16 / 16).digitChar] := by
    unfold Quoted.hex
    rw [Nat.toDigits_of_lt_base (by omega)]
    rfl
  rw [hex_succ (by decide), hex_succ (by decide), hex_succ (by decide), hfirst]
  rfl

/-- The four digits of a code unit are read as the code unit. -/
lemma exists_hex_eq {n : Nat} (hn : n < 0x10000) :
    ∃ a b c d, Quoted.hex 4 n = [a, b, c, d] ∧ hex4? a b c d = some n := by
  have hvalue : ((n / 16 / 16 / 16 * 16 + n / 16 / 16 % 16) * 16 + n / 16 % 16) * 16 + n % 16 =
      n := by omega
  have hread : ∀ k, hexDigit? (Nat.digitChar (k % 16)) = some (k % 16) :=
    fun k => hexDigit?_digitChar _ (Nat.mod_lt _ (by decide))
  refine ⟨_, _, _, _, hex_eq hn, ?_⟩
  unfold hex4?
  rw [hexDigit?_digitChar _ (by omega), hread, hread, hread]
  exact congrArg some hvalue

/-- A code unit is written in ASCII. -/
lemma toNat_lt_of_mem_unit {n : Nat} (hn : n < 0x10000) {c : Char} (hc : c ∈ unit n) :
    c.toNat < 0x80 := by
  have hdigit : ∀ k < 16, (Nat.digitChar k).toNat < 0x80 := by decide
  rw [unit, hex_eq hn] at hc
  simp only [List.mem_cons, List.not_mem_nil, or_false] at hc
  rcases hc with rfl | rfl | rfl | rfl | rfl | rfl
  · decide
  · decide
  · exact hdigit _ (by omega)
  · exact hdigit _ (Nat.mod_lt _ (by decide))
  · exact hdigit _ (Nat.mod_lt _ (by decide))
  · exact hdigit _ (Nat.mod_lt _ (by decide))

/-- A code unit that belongs to no pair is read as its character. -/
lemma textBody_unit {n : Nat} (hn : n < 0x10000) (hhigh : isHighUnit n = false)
    (hlow : isLowUnit n = false) (read rest : List Char) :
    textBody read (unit n ++ rest) = textBody (Char.ofNat n :: read) rest := by
  obtain ⟨a, b, c, d, hdigits, hvalue⟩ := exists_hex_eq hn
  rw [unit, hdigits]
  show textBody read ('\\' :: 'u' :: a :: b :: c :: d :: rest) = _
  rw [textBody.eq_def]
  split
  case h_3 heq =>
    simp only [List.cons.injEq] at heq
    obtain ⟨-, -, rfl, rfl, rfl, rfl, rfl⟩ := heq
    rw [hvalue]
    dsimp only
    rw [hhigh, hlow]
    rfl
  case h_4 heq =>
    simp only [List.cons.injEq] at heq
    obtain ⟨-, -, rfl, rfl, rfl, rfl, rfl⟩ := heq
    rw [hvalue]
    dsimp only
    rw [hhigh, hlow]
    rfl
  case h_5 hunit heq =>
    simp only [List.cons.injEq] at heq
    exact (hunit a b c d rest heq.2.1.symm heq.2.2.symm).elim
  case h_6 hunit _ heq =>
    simp only [List.cons.injEq] at heq
    exact (hunit a b c d rest heq.1.symm heq.2.symm).elim
  all_goals
    next heq => simp at heq

/-- Two code units that belong together are read as one character. -/
lemma textBody_pair {n m : Nat} (hn : n < 0x10000) (hm : m < 0x10000)
    (hhigh : isHighUnit n = true) (hlow : isLowUnit m = true) (read rest : List Char) :
    textBody read (unit n ++ (unit m ++ rest)) =
      textBody (Char.ofNat (0x10000 + (n - 0xd800) * 0x400 + (m - 0xdc00)) :: read) rest := by
  obtain ⟨a, b, c, d, hfirst, hfirstValue⟩ := exists_hex_eq hn
  obtain ⟨e, f, g, h, hsecond, hsecondValue⟩ := exists_hex_eq hm
  rw [unit, unit, hfirst, hsecond]
  show textBody read
    ('\\' :: 'u' :: a :: b :: c :: d :: '\\' :: 'u' :: e :: f :: g :: h :: rest) = _
  rw [textBody.eq_def]
  simp only [hfirstValue, hsecondValue, hhigh, hlow, if_true]

/-! ## Texts -/

/-- A character that is written as itself is read as itself. -/
lemma textBody_plain {c : Char} (hquote : c ≠ '"') (hslash : c ≠ '\\') (hc : 0x20 ≤ c.toNat)
    (read rest : List Char) : textBody read (c :: rest) = textBody (c :: read) rest := by
  rw [textBody.eq_def]
  split
  case h_6 heq =>
    obtain ⟨rfl, rfl⟩ := List.cons.inj heq
    rw [if_neg (by omega)]
  case h_1 heq => cases heq
  case h_2 heq => exact absurd (List.cons.inj heq).1 hquote
  all_goals
    next heq => exact absurd (List.cons.inj heq).1 hslash

/-- The code points of characters are those that are no code units of pairs. -/
lemma isUnit_toNat (c : Char) : isHighUnit c.toNat = false ∧ isLowUnit c.toNat = false := by
  have hvalid : c.toNat < 0xd800 ∨ 0xdfff < c.toNat ∧ c.toNat < 0x110000 := c.valid
  simp only [isHighUnit, isLowUnit, Bool.and_eq_false_iff, decide_eq_false_iff_not]
  omega

/-- The code points of characters come to an end. -/
lemma toNat_lt (c : Char) : c.toNat < 0x110000 := by
  have hvalid : c.toNat < 0xd800 ∨ 0xdfff < c.toNat ∧ c.toNat < 0x110000 := c.valid
  omega

/-- An escaped character is written in ASCII. -/
theorem toNat_lt_of_mem_escape {c d : Char} (hd : d ∈ escape c) : d.toNat < 0x80 := by
  have hbound := toNat_lt c
  unfold escape at hd
  split at hd
  case h_8 =>
    dsimp only at hd
    split at hd
    · next hprintable =>
      obtain rfl := List.mem_singleton.mp hd
      omega
    · split at hd
      · next hsmall => exact toNat_lt_of_mem_unit hsmall hd
      · rcases List.mem_append.mp hd with hd | hd
        · exact toNat_lt_of_mem_unit (by omega) hd
        · exact toNat_lt_of_mem_unit (by omega) hd
  all_goals
    simp only [List.mem_cons, List.not_mem_nil, or_false] at hd
    rcases hd with rfl | rfl <;> decide

/-- **An escaped character is read as the character.** -/
theorem textBody_escape (c : Char) (read rest : List Char) :
    textBody read (escape c ++ rest) = textBody (c :: read) rest := by
  unfold escape
  split
  case h_8 hquote hslash _ _ _ _ _ =>
    dsimp only
    split
    · next hprintable => exact textBody_plain hquote hslash hprintable.1 read rest
    · split
      · next hsmall =>
        rw [textBody_unit hsmall (isUnit_toNat c).1 (isUnit_toNat c).2, Char.ofNat_toNat]
      · next hlarge =>
        have hbound := toNat_lt c
        have hvalue : 0x10000 + (0xd800 + (c.toNat - 0x10000) / 0x400 - 0xd800) * 0x400 +
            (0xdc00 + (c.toNat - 0x10000) % 0x400 - 0xdc00) = c.toNat := by omega
        rw [List.append_assoc, textBody_pair (by omega) (by omega), hvalue, Char.ofNat_toNat]
        · simp only [isHighUnit, Bool.and_eq_true, decide_eq_true_iff]
          omega
        · simp only [isLowUnit, Bool.and_eq_true, decide_eq_true_iff]
          omega
  all_goals
    rw [textBody.eq_def]
    rfl

/-- **A text is read up to its closing quote.** -/
lemma textBody_flatMap (cs read rest : List Char) :
    textBody read (cs.flatMap escape ++ '"' :: rest) = some (read.reverse ++ cs, rest) := by
  induction cs generalizing read with
  | nil =>
    rw [List.flatMap_nil, List.nil_append, List.append_nil, textBody.eq_def]
    rfl
  | cons c cs ih =>
    rw [List.flatMap_cons, List.append_assoc, textBody_escape, ih, List.reverse_cons,
      List.append_assoc, List.singleton_append]

/-- **A text between quotes is read as the text.** -/
theorem token?_quoted (cs rest : List Char) :
    token? (quoted cs ++ rest) = some (.scalar (.text (String.ofList cs)), rest) := by
  have hbody := textBody_flatMap cs [] rest
  show (textBody [] (cs.flatMap escape ++ ['"'] ++ rest)).map _ = _
  rw [List.append_assoc, List.singleton_append, hbody]
  rfl

/-! ## Numbers -/

/-- What may follow a number: nothing that the number could go on with. -/
def EndsNumber (rest : List Char) : Prop :=
  ∀ c ∈ rest.head?, c.isDigit = false ∧ c ≠ '.' ∧ c ≠ 'e' ∧ c ≠ 'E'

/-- The digits at the beginning of a text. -/
lemma digits_append {ds rest : List Char} (hds : ∀ c ∈ ds, c.isDigit = true)
    (hrest : ∀ c ∈ rest.head?, c.isDigit = false) : digits (ds ++ rest) = (ds, rest) := by
  have hstop : rest.takeWhile Char.isDigit = [] ∧ rest.dropWhile Char.isDigit = rest := by
    cases rest with
    | nil => exact ⟨rfl, rfl⟩
    | cons c rest =>
      have hc : ¬ c.isDigit = true := by
        rw [hrest c rfl]
        exact Bool.false_ne_true
      exact ⟨List.takeWhile_cons_of_neg hc, List.dropWhile_cons_of_neg hc⟩
  rw [digits, List.takeWhile_append_of_pos hds, List.dropWhile_append_of_pos hds, hstop.1, hstop.2,
    List.append_nil]

section Numeral

variable (n : Numeral) {rest : List Char}

/-- Nothing that may follow the digits before the point is a digit. -/
lemma isDigit_head_powerText (hrest : EndsNumber rest) :
    ∀ c ∈ (n.powerText ++ rest).head?, c.isDigit = false := by
  intro c hc
  unfold Numeral.powerText at hc
  split at hc
  · exact (hrest c hc).1
  · obtain rfl := Option.some.inj hc
    rfl

/-- The digits before the point. -/
lemma integerPart_text (hrest : EndsNumber rest) :
    integerPart (n.text ++ rest) = (n.whole, n.pointText ++ (n.powerText ++ rest)) := by
  have hstop : ∀ c ∈ (n.pointText ++ (n.powerText ++ rest)).head?, c.isDigit = false := by
    intro c hc
    unfold Numeral.pointText at hc
    split at hc
    · exact isDigit_head_powerText n hrest c hc
    · obtain rfl := Option.some.inj hc
      rfl
  have htext : n.text ++ rest = n.whole ++ (n.pointText ++ (n.powerText ++ rest)) := by
    rw [Numeral.text, List.append_assoc, List.append_assoc]
  rw [htext]
  unfold integerPart
  split
  · next hzero =>
    rcases hwhole : n.whole with _ | ⟨c, cs⟩
    · exact absurd hwhole n.whole_ne_nil
    · rw [hwhole, List.cons_append] at hzero
      obtain ⟨rfl, hafter⟩ := List.cons.inj hzero
      obtain rfl := n.leading cs hwhole
      rw [← hafter]
      rfl
  · exact digits_append (fun c hc => n.isDigit c (List.mem_append_left _ hc)) hstop

/-- The point and the digits after it. -/
lemma fraction_text (hrest : EndsNumber rest) :
    fraction (n.pointText ++ (n.powerText ++ rest)) = (n.pointText, n.powerText ++ rest) := by
  unfold Numeral.pointText
  split
  · unfold fraction
    split
    · next hpoint =>
      exfalso
      unfold Numeral.powerText at hpoint
      split at hpoint
      · refine (hrest '.' ?_).2.1 rfl
        rw [List.nil_append, List.nil_append] at hpoint
        rw [hpoint]
        rfl
      · exact absurd (List.cons.inj hpoint).1 (by decide)
    · rfl
  · next hne =>
    have hdigits :
        digits (n.fraction ++ (n.powerText ++ rest)) = (n.fraction, n.powerText ++ rest) :=
      digits_append (fun c hc => n.isDigit c (List.mem_append_right _ hc))
        (isDigit_head_powerText n hrest)
    have hempty : n.fraction.isEmpty = false := List.isEmpty_eq_false_iff.mpr hne
    rw [List.cons_append, fraction]
    simp only [hdigits, hempty, Bool.false_eq_true, if_false]

/-- The exponent. -/
lemma exponent_text (hrest : EndsNumber rest) :
    exponent (n.powerText ++ rest) = (n.powerText, rest) := by
  unfold Numeral.powerText
  split
  · rw [List.nil_append]
    rcases rest with _ | ⟨c, rest⟩
    · rfl
    · obtain ⟨-, -, he, hE⟩ := hrest c rfl
      exact if_neg (not_or.mpr ⟨he, hE⟩)
  · next e _ =>
    have hdigits : digits (paddedDigits 2 e.natAbs ++ rest) = (paddedDigits 2 e.natAbs, rest) :=
      digits_append (fun c hc => isDigit_of_mem_paddedDigits hc) fun c hc => (hrest c hc).1
    have hempty : (paddedDigits 2 e.natAbs).isEmpty = false :=
      List.isEmpty_eq_false_iff.mpr (paddedDigits_ne_nil 2 e.natAbs)
    by_cases he : e < 0
    · simp only [he, List.cons_append, exponent, hdigits, hempty, if_true, true_or,
        Bool.false_eq_true, if_false]
      rfl
    · simp only [he, List.cons_append, exponent, hdigits, hempty, if_true, true_or,
        Bool.false_eq_true, if_false]
      rfl

/-- **A numeral is read as what it is**: an integer, or a double if it has a point or an
exponent. -/
lemma number?_text (negative : Bool) (hrest : EndsNumber rest) :
    number? (Floating.signText negative ++ (n.text ++ rest)) =
      if n.fraction = [] ∧ n.power = none then
        (DecimalNumber.signed? (Floating.signText negative ++ n.whole)).map fun k => (.int k, rest)
      else (Literal.floating? (Floating.signText negative ++ n.text)).map fun x =>
        (.float x, rest) := by
  have hparts : n.whole ++ n.pointText ++ n.powerText = n.text := rfl
  have hwhole : n.whole.isEmpty = false := List.isEmpty_eq_false_iff.mpr n.whole_ne_nil
  have hempty : (n.pointText.isEmpty && n.powerText.isEmpty) =
      decide (n.fraction = [] ∧ n.power = none) := by
    unfold Numeral.pointText Numeral.powerText
    rcases n.fraction with _ | _ <;> rcases n.power with _ | _ <;> simp
  cases negative with
  | true =>
    simp only [number?, Floating.signText, if_true, List.cons_append, List.nil_append,
      integerPart_text n hrest, fraction_text n hrest, exponent_text n hrest, hwhole, hempty,
      Bool.false_eq_true, if_false, decide_eq_true_eq, hparts]
  | false =>
    obtain ⟨c, cs, htext, hc⟩ := n.exists_text_eq
    have hsign : number? (n.text ++ rest) =
        if n.fraction = [] ∧ n.power = none then
          (DecimalNumber.signed? n.whole).map fun k => (.int k, rest)
        else (Literal.floating? n.text).map fun x => (.float x, rest) := by
      unfold number?
      split
      next sign after hsign =>
      split at hsign
      · next hminus =>
        rw [htext] at hminus
        exact absurd (List.cons.inj hminus).1 (ne_of_isDigit hc rfl)
      · obtain ⟨rfl, rfl⟩ := Prod.mk.inj hsign
        simp only [integerPart_text n hrest, fraction_text n hrest, exponent_text n hrest, hwhole,
          hempty, List.nil_append, Bool.false_eq_true, if_false, decide_eq_true_eq, hparts]
    exact hsign

end Numeral

/-- What begins with a digit, perhaps behind a minus sign, is no literal. -/
lemma literal?_number (negative : Bool) {c : Char} (hc : c.isDigit = true) (rest : List Char) :
    literal? (Floating.signText negative ++ c :: rest) = none := by
  have hne : ∀ d : Char, d.isDigit = false → (d == c) = false := by
    intro d hd
    rw [beq_eq_false_iff_ne]
    exact (ne_of_isDigit hc hd).symm
  have hfind : literals.find? (fun l => l.1.isPrefixOf (Floating.signText negative ++ c :: rest)) =
      none := by
    rw [List.find?_eq_none]
    intro l hl
    simp only [literals, List.mem_cons, List.not_mem_nil, or_false] at hl
    rcases hl with rfl | rfl | rfl | rfl | rfl | rfl <;> cases negative <;>
      simp [Floating.signText, List.isPrefixOf, hne]
  rw [literal?, hfind]
  rfl

/-- What begins with a digit, perhaps behind a minus sign, is read as a number. -/
lemma token?_number (negative : Bool) {c : Char} (hc : c.isDigit = true) (rest : List Char) :
    token? (Floating.signText negative ++ c :: rest) =
      (number? (Floating.signText negative ++ c :: rest)).map
        fun (v, rest) => (.scalar v, rest) := by
  have hhead : ∀ d rest', Floating.signText negative ++ c :: rest = d :: rest' →
      d.isDigit = true ∨ d = '-' := by
    intro d rest' heq
    cases negative with
    | true => exact .inr (List.cons.inj heq).1.symm
    | false =>
      obtain ⟨rfl, -⟩ := List.cons.inj heq
      exact .inl hc
  have hliteral := literal?_number negative hc rest
  generalize Floating.signText negative ++ c :: rest = cs at hhead hliteral
  unfold token?
  split
  case h_8 => rw [hliteral]
  all_goals exact absurd (hhead _ _ rfl) (by decide)

/-- A numeral is read as a number, whatever its sign. -/
lemma token?_text (n : Numeral) (negative : Bool) (rest : List Char) :
    token? (Floating.signText negative ++ (n.text ++ rest)) =
      (number? (Floating.signText negative ++ (n.text ++ rest))).map
        fun (v, rest) => (.scalar v, rest) := by
  obtain ⟨c, cs, hcs, hc⟩ := n.exists_text_eq
  rw [hcs, List.cons_append]
  exact token?_number negative hc (cs ++ rest)

/-- **The digits of an integer are read as the integer.** -/
theorem token?_intDigits (k : Int) {rest : List Char} (hrest : EndsNumber rest) :
    token? (intDigits k ++ rest) = some (.scalar (.int k), rest) := by
  have hsigned : DecimalNumber.signed?
      (Floating.signText (decide (k < 0)) ++ (Numeral.ofNat k.natAbs).whole) = some k := by
    rw [← signed?_intDigits k, intDigits_eq]
    rfl
  rw [← Numeral.signed_ofNat, List.append_assoc, token?_text, number?_text _ _ hrest,
    if_pos ⟨rfl, rfl⟩, hsigned]
  rfl

/-- **The text of a finite double is read as the double.** -/
theorem token?_double {m : Nat} {q : Int} (h : Format.double.Holds m q) (negative : Bool)
    {rest : List Char} (hrest : EndsNumber rest) :
    token? (double (.finite negative m q) ++ rest) =
      some (.scalar (.float (.finite negative m q)), rest) := by
  obtain ⟨n, htext, hfloat, hread⟩ := Literal.floating?_text h negative
  have hdouble : double (.finite negative m q) = Floating.signText negative ++ n.text := htext
  have hpoint : ¬ (n.fraction = [] ∧ n.power = none) :=
    fun hint => hfloat.elim (absurd hint.1) (absurd hint.2)
  rw [hdouble, List.append_assoc, token?_text, number?_text n negative hrest, if_neg hpoint, hread]
  rfl

/-- The two truth values are read as they are written. -/
lemma token?_bool (b : Bool) (rest : List Char) :
    token? ((if b then "true".toList else "false".toList) ++ rest) =
      some (.scalar (.bool b), rest) := by
  cases b with
  | true => rfl
  | false => rfl

end SeriesClient.Json
