import SeriesClient.Number.Literal
import SeriesClient.Proofs.Number.Digits
import SeriesClient.Proofs.Number.Shortest

set_option relaxedAutoImplicit false
set_option autoImplicit false

/-!
# Numbers that read back

The text of a floating-point number is a numeral: digits, perhaps with a point among them, and
perhaps with an exponent. A numeral is read as the decimal that it spells, rounded to a double, and
the shortest decimal of a double is rounded to that double.

## Main definitions

* `SeriesClient.Numeral` — a number in decimal notation, without its sign.

## Main results

* `SeriesClient.Floating.exists_numeral` — the text of a finite number is a numeral.
* `SeriesClient.Numeral.floating?_text` — a numeral is read as the decimal that it spells.
* `SeriesClient.DecimalNumber.toFloating_eq` — a decimal is rounded to the number it is nearest to.
* `SeriesClient.Literal.floating?_text` — the text of a finite double is read as that double.
-/

namespace SeriesClient

/-- A number in decimal notation, without its sign. -/
structure Numeral where
  /-- The digits before the point. -/
  whole : List Char
  /-- The digits after the point; without any, there is no point. -/
  fraction : List Char
  /-- The exponent, if one is written. -/
  power : Option Int
  /-- Only digits stand before and after the point. -/
  isDigit : ∀ c ∈ whole ++ fraction, c.isDigit = true
  /-- Some digit stands before the point. -/
  whole_ne_nil : whole ≠ []
  /-- No zero stands in front of other digits before the point. -/
  leading : ∀ rest, whole = '0' :: rest → rest = []

namespace Numeral

/-- The point with the digits after it. -/
def pointText (n : Numeral) : List Char :=
  if n.fraction = [] then [] else '.' :: n.fraction

/-- The exponent with its letter and its sign. -/
def powerText (n : Numeral) : List Char :=
  match n.power with
  | none => []
  | some e => 'e' :: (if e < 0 then '-' else '+') :: paddedDigits 2 e.natAbs

/-- The text of a numeral. -/
def text (n : Numeral) : List Char :=
  n.whole ++ n.pointText ++ n.powerText

/-- The decimal that a numeral spells. -/
def decimals (n : Numeral) : Decimals :=
  ⟨Nat.ofDigitChars 10 (n.whole ++ n.fraction) 0, n.power.getD 0 - n.fraction.length⟩

/-- The numeral of a natural number. -/
def ofNat (k : Nat) : Numeral where
  whole := natDigits k
  fraction := []
  power := none
  isDigit c hc := isDigit_of_mem_natDigits (by rwa [List.append_nil] at hc)
  whole_ne_nil := natDigits_ne_nil k
  leading _ h := eq_nil_of_natDigits h

/-- An integer is written as the numeral of its size, with its sign. -/
lemma signed_ofNat (k : Int) :
    Floating.signText (decide (k < 0)) ++ (ofNat k.natAbs).text = intDigits k := by
  rw [intDigits_eq, text, List.append_assoc]
  exact congrArg _ (List.append_nil _)

/-- Whether a numeral has a point or an exponent. -/
def IsFloat (n : Numeral) : Prop :=
  n.fraction ≠ [] ∨ n.power ≠ none

end Numeral

/-! ## The numerals of decimals -/

/-- A decimal without digits after the point is spelled as a numeral, if it is not a zero with other
zeros behind it. -/
lemma Decimals.exists_numeral_of_nonneg {d : Decimals} (h : 0 < d.digits ∨ d.place = 0)
    (hplace : 0 ≤ d.place) :
    ∃ n : Numeral, n.text = d.positional ∧ n.IsFloat ∧ n.decimals.toRat = d.toRat := by
  obtain ⟨k, hk⟩ := Int.eq_ofNat_of_zero_le hplace
  have hvalue : Nat.ofDigitChars 10 (natDigits d.digits) 0 = d.digits :=
    Nat.ofDigitChars_ten_toDigits
  refine ⟨⟨natDigits d.digits ++ List.replicate d.place.toNat '0', ['0'], none, ?_, ?_, ?_⟩,
    ?_, .inl (List.cons_ne_nil _ _), ?_⟩
  · intro c hc
    rw [List.append_assoc, ← List.replicate_succ', List.mem_append] at hc
    rcases hc with hc | hc
    · exact isDigit_of_mem_natDigits hc
    · rw [List.eq_of_mem_replicate hc]
      rfl
  · exact List.append_ne_nil_of_left_ne_nil (natDigits_ne_nil _) _
  · intro rest hrest
    rcases hdigits : natDigits d.digits with _ | ⟨c, cs⟩
    · exact absurd hdigits (natDigits_ne_nil _)
    · rw [hdigits, List.cons_append] at hrest
      obtain ⟨rfl, rfl⟩ := List.cons.inj hrest
      obtain rfl := eq_nil_of_natDigits hdigits
      have hzero : 0 = d.digits := by
        rw [hdigits] at hvalue
        exact hvalue
      rw [h.resolve_left (by omega)]
      rfl
  · unfold positional
    rw [if_pos hplace]
    exact List.append_nil _
  · simp only [Numeral.decimals, toRat, Nat.ofDigitChars_append, hvalue,
      Nat.ofDigitChars_replicate_zero, hk, Int.toNat_natCast, Nat.ofDigitChars_cons,
      Nat.ofDigitChars_nil, Option.getD_none, List.length_singleton, zpow_natCast]
    push_cast
    norm_num
    ring

/-- A decimal with digits after the point is spelled as a numeral. -/
lemma Decimals.exists_numeral_of_neg {d : Decimals} (hplace : ¬ 0 ≤ d.place) :
    ∃ n : Numeral, n.text = d.positional ∧ n.IsFloat ∧ n.decimals.toRat = d.toRat := by
  unfold positional
  rw [if_neg hplace]
  dsimp only
  generalize hfilled : List.replicate ((-d.place).toNat + 1 - (natDigits d.digits).length) '0' ++
    natDigits d.digits = filled
  have hlength : (-d.place).toNat + 1 ≤ filled.length := by
    rw [← hfilled, List.length_append, List.length_replicate]
    omega
  have hread : Nat.ofDigitChars 10 filled 0 = d.digits := by
    rw [← hfilled, Nat.ofDigitChars_append, Nat.ofDigitChars_replicate_zero, Nat.mul_zero]
    exact Nat.ofDigitChars_ten_toDigits
  have hfraction : (filled.drop (filled.length - (-d.place).toNat)).length = (-d.place).toNat := by
    rw [List.length_drop]
    omega
  have hne : filled.drop (filled.length - (-d.place).toNat) ≠ [] := by
    rw [← List.length_pos_iff, hfraction]
    omega
  refine ⟨⟨filled.take (filled.length - (-d.place).toNat),
    filled.drop (filled.length - (-d.place).toNat), none, ?_, ?_, ?_⟩, ?_, .inl hne, ?_⟩
  · intro c hc
    rw [List.take_append_drop, ← hfilled] at hc
    rcases List.mem_append.mp hc with hc | hc
    · rw [List.eq_of_mem_replicate hc]
      rfl
    · exact isDigit_of_mem_natDigits hc
  · rw [← List.length_pos_iff, List.length_take]
    omega
  · intro rest hrest
    by_cases hfits : (natDigits d.digits).length ≤ (-d.place).toNat + 1
    · -- zeros are filled in only as far as one digit before the point
      have hone : (filled.take (filled.length - (-d.place).toNat)).length = 1 := by
        rw [List.length_take, ← hfilled, List.length_append, List.length_replicate]
        omega
      rw [hrest, List.length_cons] at hone
      exact List.length_eq_zero_iff.mp (by omega)
    · rw [Nat.sub_eq_zero_of_le (by omega), List.replicate_zero, List.nil_append] at hfilled
      rw [← hfilled] at hrest
      have hwhole := (List.take_append_drop ((natDigits d.digits).length - (-d.place).toNat)
        (natDigits d.digits)).symm
      rw [hrest, List.cons_append] at hwhole
      exact (List.append_eq_nil_iff.mp (eq_nil_of_natDigits hwhole)).1
  · simp only [Numeral.text, Numeral.pointText, Numeral.powerText, if_neg hne, List.append_nil]
  · simp only [Numeral.decimals, toRat, List.take_append_drop, hread, hfraction,
      Option.getD_none, zero_sub]
    congr 2
    omega

/-- The spelling of a decimal with an exponent is a numeral. -/
lemma Decimals.exists_numeral_scientific (d : Decimals) :
    ∃ n : Numeral, n.text = d.scientific ∧ n.IsFloat ∧ n.decimals.toRat = d.toRat := by
  have hne := natDigits_ne_nil d.digits
  have hlength : 0 < (natDigits d.digits).length := List.length_pos_iff.mpr hne
  have hvalue : Nat.ofDigitChars 10 (natDigits d.digits) 0 = d.digits :=
    Nat.ofDigitChars_ten_toDigits
  have hone : ((natDigits d.digits).take 1).length = 1 := by
    rw [List.length_take]
    omega
  refine ⟨⟨(natDigits d.digits).take 1, (natDigits d.digits).drop 1, some d.leadingPlace,
    ?_, ?_, ?_⟩, ?_, .inr nofun, ?_⟩
  · intro c hc
    rw [List.take_append_drop] at hc
    exact isDigit_of_mem_natDigits hc
  · rw [← List.length_pos_iff, hone]
    exact Nat.one_pos
  · intro rest hrest
    rw [hrest, List.length_cons] at hone
    exact List.length_eq_zero_iff.mp (by omega)
  · have hpoint : (natDigits d.digits).drop 1 = [] ↔ (natDigits d.digits).length ≤ 1 :=
      List.drop_eq_nil_iff
    simp only [Numeral.text, Numeral.pointText, Numeral.powerText, hpoint, scientific]
  · have hplace : d.leadingPlace - ((natDigits d.digits).length - 1 : Nat) = d.place := by
      unfold leadingPlace decimalLength
      unfold natDigits at hlength ⊢
      omega
    simp only [Numeral.decimals, toRat, List.take_append_drop, hvalue, Option.getD_some,
      List.length_drop, hplace]

/-- **The text of a finite number is a numeral**, in any format. -/
theorem Floating.exists_numeral (f : Format) (negative : Bool) (m : Nat) (q : Int) :
    ∃ n : Numeral, (finite negative m q).text f = signText negative ++ n.text ∧ n.IsFloat ∧
      n.decimals.toRat = (f.shortest m q).toRat := by
  have hpositional : 0 < (f.shortest m q).digits ∨ (f.shortest m q).place = 0 := by
    rcases Nat.eq_zero_or_pos m with rfl | hm
    · exact .inr rfl
    · exact .inl (f.shortest_digits_pos hm q)
  unfold text spell
  dsimp only
  split
  · by_cases hplace : 0 ≤ (f.shortest m q).place
    · obtain ⟨n, htext, hrest⟩ := Decimals.exists_numeral_of_nonneg hpositional hplace
      exact ⟨n, by rw [htext], hrest⟩
    · obtain ⟨n, htext, hrest⟩ := Decimals.exists_numeral_of_neg hplace
      exact ⟨n, by rw [htext], hrest⟩
  · obtain ⟨n, htext, hrest⟩ := (f.shortest m q).exists_numeral_scientific
    exact ⟨n, by rw [htext], hrest⟩

/-! ## Characters of numerals -/

/-- The characters of numerals and of their signs. -/
def isNumeralChar (c : Char) : Bool :=
  c.isDigit || c == '.' || c == 'e' || c == '+' || c == '-'

/-- The code points of the digits. -/
lemma toNat_of_isDigit {c : Char} (h : c.isDigit = true) : 48 ≤ c.toNat ∧ c.toNat ≤ 57 := by
  simp only [Char.isDigit, Bool.and_eq_true, decide_eq_true_iff] at h
  exact h

/-- A digit is a digit of ASCII already. -/
lemma toAsciiDigit_of_isNumeralChar {c : Char} (h : isNumeralChar c = true) :
    Literal.toAsciiDigit c = c := by
  simp only [isNumeralChar, Bool.or_eq_true, beq_iff_eq] at h
  rcases h with (((hdigit | rfl) | rfl) | rfl) | rfl
  · obtain ⟨hlow, hhigh⟩ := toNat_of_isDigit hdigit
    have hvalue : digitValue? c = some (c.toNat - 48) := by
      rw [digitValue?, digitZeros, List.find?_cons_of_pos (by simp; omega)]
      rfl
    rw [Literal.toAsciiDigit, hvalue]
    show Char.ofNat (48 + (c.toNat - 48)) = c
    rw [Nat.add_sub_cancel' hlow, Char.ofNat_toNat]
  all_goals decide

/-- The characters of numerals are in ASCII. -/
lemma toNat_lt_of_isNumeralChar {c : Char} (h : isNumeralChar c = true) : c.toNat < 0x80 := by
  simp only [isNumeralChar, Bool.or_eq_true, beq_iff_eq] at h
  rcases h with (((hdigit | rfl) | rfl) | rfl) | rfl
  · obtain ⟨-, hhigh⟩ := toNat_of_isDigit hdigit
    omega
  all_goals decide

/-- No character of a numeral is white space. -/
lemma isBlank_of_isNumeralChar {c : Char} (h : isNumeralChar c = true) : isBlank c = false := by
  simp only [isNumeralChar, Bool.or_eq_true, beq_iff_eq] at h
  rcases h with (((hdigit | rfl) | rfl) | rfl) | rfl
  · obtain ⟨hlow, hhigh⟩ := toNat_of_isDigit hdigit
    simp [isBlank]
    omega
  all_goals decide

namespace Literal

/-- A text without white space has none to be removed. -/
lemma trimBlanks_eq {cs : List Char} (h : ∀ c ∈ cs, isBlank c = false) : trimBlanks cs = cs := by
  have hdrop : ∀ {l : List Char}, (∀ c ∈ l, isBlank c = false) → l.dropWhile isBlank = l := by
    intro l hl
    cases l with
    | nil => rfl
    | cons c l => rw [List.dropWhile_cons_of_neg (by simp [hl c List.mem_cons_self])]
  rw [trimBlanks, hdrop h, hdrop fun c hc => h c (List.mem_reverse.mp hc), List.reverse_reverse]

/-- A text without underscores has none to be removed. -/
lemma joinDigits?_eq {cs : List Char} (h : '_' ∉ cs) : joinDigits? cs = some cs := by
  induction cs with
  | nil => rfl
  | cons c rest ih =>
    obtain ⟨hc, hrest⟩ := not_or.mp (mt List.mem_cons.mpr h)
    cases rest with
    | nil => rw [joinDigits?, if_neg (Ne.symm hc)]
    | cons d rest =>
      obtain ⟨hd, -⟩ := not_or.mp (mt List.mem_cons.mpr hrest)
      rw [joinDigits?.eq_def]
      dsimp only
      rw [if_neg (Ne.symm hc), if_neg (Ne.symm hd), ih hrest]
      rfl

/-- The text of a numeral is in its plain form. -/
lemma normalize?_eq {cs : List Char} (h : ∀ c ∈ cs, isNumeralChar c = true) :
    normalize? cs = some cs := by
  have hmap : cs.map toAsciiDigit = cs := by
    rw [List.map_congr_left fun c hc => toAsciiDigit_of_isNumeralChar (h c hc)]
    exact List.map_id' cs
  have hunderscore : '_' ∉ cs := fun hmem => absurd (h _ hmem) (by decide)
  rw [normalize?, trimBlanks_eq fun c hc => isBlank_of_isNumeralChar (h c hc), hmap,
    joinDigits?_eq hunderscore]

end Literal

/-! ## Reading numerals -/

namespace Numeral

/-- A numeral begins with a digit. -/
lemma exists_text_eq (n : Numeral) : ∃ c rest, n.text = c :: rest ∧ c.isDigit = true := by
  rcases hwhole : n.whole with _ | ⟨c, cs⟩
  · exact absurd hwhole n.whole_ne_nil
  · refine ⟨c, cs ++ n.pointText ++ n.powerText, by rw [text, hwhole]; rfl, n.isDigit c ?_⟩
    rw [hwhole]
    exact List.mem_cons_self

/-- What stands before the exponent are digits and a point. -/
lemma isDigit_or_of_mem (n : Numeral) {c : Char} (hc : c ∈ n.whole ++ n.pointText) :
    c.isDigit = true ∨ c = '.' := by
  rcases List.mem_append.mp hc with hc | hc
  · exact .inl (n.isDigit c (List.mem_append_left _ hc))
  · unfold pointText at hc
    split at hc
    · nomatch hc
    · rcases List.mem_cons.mp hc with hc | hc
      · exact .inr hc
      · exact .inl (n.isDigit c (List.mem_append_right _ hc))

/-- The characters of numerals. -/
lemma isNumeralChar_of_mem (n : Numeral) {c : Char} (hc : c ∈ n.text) :
    isNumeralChar c = true := by
  rcases List.mem_append.mp hc with hc | hc
  · rcases n.isDigit_or_of_mem hc with hdigit | rfl
    · simp [isNumeralChar, hdigit]
    · rfl
  · unfold powerText at hc
    split at hc
    · nomatch hc
    · rcases List.mem_cons.mp hc with rfl | hc
      · rfl
      · rcases List.mem_cons.mp hc with rfl | hc
        · split <;> rfl
        · simp [isNumeralChar, isDigit_of_mem_paddedDigits hc]

/-- The characters of numerals with their signs. -/
lemma isNumeralChar_of_mem_signed {n : Numeral} {negative : Bool} {c : Char}
    (hc : c ∈ Floating.signText negative ++ n.text) : isNumeralChar c = true := by
  rcases List.mem_append.mp hc with hc | hc
  · cases negative with
    | false => nomatch hc
    | true =>
      obtain rfl := List.mem_singleton.mp hc
      rfl
  · exact n.isNumeralChar_of_mem hc

/-- The parts of a numeral, as they are told apart. -/
lemma magnitude?_text (n : Numeral) (negative : Bool) :
    DecimalNumber.magnitude? negative n.text =
      some (.finite negative n.decimals.digits n.decimals.place) := by
  have hmantissa : n.text.takeWhile (fun c => c != 'E' && c != 'e') = n.whole ++ n.pointText := by
    rw [text, List.takeWhile_append_of_pos]
    · unfold powerText
      split
      · exact List.append_nil _
      · exact List.append_nil _
    · intro c hc
      rcases n.isDigit_or_of_mem hc with hdigit | rfl
      · have hE : c ≠ 'E' := ne_of_isDigit hdigit rfl
        have he : c ≠ 'e' := ne_of_isDigit hdigit rfl
        simp [hE, he]
      · rfl
  have hpoint : ∀ c ∈ n.whole, (c != '.') = true := by
    intro c hc
    rw [bne_iff_ne]
    exact ne_of_isDigit (n.isDigit c (List.mem_append_left _ hc)) rfl
  have hwhole : (n.whole ++ n.pointText).takeWhile (· != '.') = n.whole := by
    rw [List.takeWhile_append_of_pos hpoint]
    unfold pointText
    split
    · exact List.append_nil _
    · exact List.append_nil _
  have hfraction : ((n.whole ++ n.pointText).dropWhile (· != '.')).drop 1 = n.fraction := by
    rw [List.dropWhile_append_of_pos hpoint]
    unfold pointText
    split
    · next hnone => rw [hnone]; rfl
    · rfl
  have hpower : n.text.drop (n.whole ++ n.pointText).length = n.powerText := List.drop_left
  unfold DecimalNumber.magnitude?
  dsimp only
  rw [hmantissa, hwhole, hfraction, hpower,
    digits?_of_isDigit (List.append_ne_nil_of_left_ne_nil n.whole_ne_nil _) n.isDigit]
  unfold powerText decimals
  rcases n.power with _ | e
  · rfl
  · dsimp only
    by_cases he : e < 0
    · have habs : -(e.natAbs : Int) = e := by omega
      rw [if_pos he, signed?_minus (digits?_paddedDigits _ _), habs]
      rfl
    · have habs : (e.natAbs : Int) = e := by omega
      rw [if_neg he, signed?_plus (digits?_paddedDigits _ _), habs]
      rfl

/-- **A numeral is read as the decimal that it spells**, rounded to a double. -/
theorem floating?_text (n : Numeral) (negative : Bool) :
    Literal.floating? (Floating.signText negative ++ n.text) =
      some (DecimalNumber.finite negative n.decimals.digits n.decimals.place).toFloating := by
  obtain ⟨c, rest, htext, hc⟩ := n.exists_text_eq
  have hword : ∀ (d : Char) (word : List Char), d.isDigit = false →
      String.ofList (n.text.map Char.toLower) ≠ String.ofList (d :: word) := by
    intro d word hd heq
    have hchars : n.text.map Char.toLower = d :: word := by
      simpa only [String.toList_ofList] using congrArg String.toList heq
    have hlower : c.toLower = c := by
      obtain ⟨hlow, hhigh⟩ := toNat_of_isDigit hc
      unfold Char.toLower
      rw [dif_neg]
      rintro ⟨hupper, -⟩
      have hupper' : 65 ≤ c.toNat := hupper
      omega
    rw [htext, List.map_cons, hlower] at hchars
    exact ne_of_isDigit hc hd (List.cons.inj hchars).1
  have hmagnitude : Literal.magnitude? negative n.text =
      some (DecimalNumber.finite negative n.decimals.digits n.decimals.place).toFloating := by
    rw [Literal.magnitude?, if_neg, if_neg, n.magnitude?_text, Option.map_some]
    · exact hword 'n' _ rfl
    · rw [not_or]
      exact ⟨hword 'i' _ rfl, hword 'i' _ rfl⟩
  have hnormal : Literal.normalize? (Floating.signText negative ++ n.text) =
      some (Floating.signText negative ++ n.text) :=
    Literal.normalize?_eq fun c hc => isNumeralChar_of_mem_signed hc
  rw [Literal.floating?, hnormal]
  cases negative with
  | true => exact hmagnitude
  | false =>
    have hminus : c ≠ '-' := ne_of_isDigit hc rfl
    have hplus : c ≠ '+' := ne_of_isDigit hc rfl
    have hplain : Floating.signText false ++ c :: rest = c :: rest := rfl
    rw [← hmagnitude, htext, hplain]
    split
    · next heq => exact absurd (List.cons.inj (Option.some.inj heq)).1 hminus
    · next heq => exact absurd (List.cons.inj (Option.some.inj heq)).1 hplus
    · next heq => rw [Option.some.inj heq]
    · next heq => cases heq

end Numeral

/-! ## Rounding to a double -/

/-- A decimal is rounded as the quotient that it is, unless it is far too large or too small. -/
lemma DecimalNumber.toFloating_of_magnitude (negative : Bool) {c : Nat} {e : Int} (hc : 0 < c)
    (hlow : -magnitudeLimit ≤ (decimalLength c : Int) + e)
    (hhigh : (decimalLength c : Int) + e ≤ magnitudeLimit) :
    ∃ num den : Nat, 0 < den ∧ (num : ℚ) / den = Decimals.toRat ⟨c, e⟩ ∧
      (finite negative c e).toFloating = Format.double.roundQuotient negative num den := by
  unfold toFloating
  dsimp only
  rw [if_neg (by omega), if_neg (by omega)]
  split
  · next he =>
    obtain ⟨k, rfl⟩ := Int.eq_ofNat_of_zero_le he
    refine ⟨c * 10 ^ k, 1, Nat.one_pos, ?_, rfl⟩
    rw [Decimals.toRat, zpow_natCast, Nat.cast_one, div_one]
    push_cast
    rfl
  · next he =>
    obtain ⟨k, rfl⟩ : ∃ k : Nat, e = -k := ⟨(-e).toNat, by omega⟩
    refine ⟨c, 10 ^ k, Nat.pow_pos (by decide), ?_, ?_⟩
    · rw [Decimals.toRat, zpow_neg, zpow_natCast, div_eq_mul_inv]
      push_cast
      rfl
    · rw [neg_neg, Int.toNat_natCast]

/-- The doubles other than zero, and what is rounded to them, are not too small for the reader. -/
lemma Format.Nearest.two_zpow_le {m : Nat} {q : Int} (h : double.Holds m q) (hm : 0 < m) {v : ℚ}
    (hv : double.Nearest m q v) : (2 : ℚ) ^ (-1075 : Int) ≤ v := by
  have hgap := double.gapBelow_le m q
  have hm' : (1 : ℚ) ≤ m := by exact_mod_cast hm
  have hmin : (-1074 : Int) ≤ q := h.min_le
  calc (2 : ℚ) ^ (-1075 : Int) = 1 / 2 * 2 ^ (-1074 : Int) := by
        have hsplit : (-1075 : Int) = -1 + -1074 := by decide
        rw [hsplit, zpow_add₀ two_ne_zero, zpow_neg_one, one_div]
    _ ≤ 1 / 2 * 2 ^ q :=
        mul_le_mul_of_nonneg_left (zpow_le_zpow_right₀ one_le_two hmin) (by norm_num)
    _ ≤ (m - double.gapBelow m q) * 2 ^ q :=
        mul_le_mul_of_nonneg_right (by linarith) (by positivity)
    _ ≤ v := hv.lower

/-- A decimal lies between the powers of ten of its first digit and of the one before it. -/
lemma Decimals.toRat_bounds {d : Decimals} (h : 0 < d.digits) :
    (10 : ℚ) ^ ((decimalLength d.digits - 1 : Nat) + d.place) ≤ d.toRat ∧
      d.toRat < 10 ^ (decimalLength d.digits + d.place) := by
  have hpower : (0 : ℚ) < 10 ^ d.place := by positivity
  rw [toRat, zpow_add₀ (by norm_num), zpow_add₀ (by norm_num), zpow_natCast, zpow_natCast]
  constructor
  · refine mul_le_mul_of_nonneg_right ?_ hpower.le
    exact_mod_cast pow_decimalLength_le h
  · refine mul_lt_mul_of_pos_right ?_ hpower
    exact_mod_cast lt_pow_decimalLength d.digits

/-- A power of ten is farther from one than the power of two with its exponent. -/
lemma two_zpow_le_ten_zpow {k : Int} (hk : 0 ≤ k) :
    (2 : ℚ) ^ k ≤ 10 ^ k ∧ (10 : ℚ) ^ (-k) ≤ 2 ^ (-k) := by
  have hle : (2 : ℚ) ^ k ≤ 10 ^ k := zpow_le_zpow_left₀ hk (by norm_num) (by norm_num)
  refine ⟨hle, ?_⟩
  rw [zpow_neg, zpow_neg]
  exact inv_anti₀ (by positivity) hle

/-- **A decimal is rounded to the double that it is nearest to.** -/
theorem DecimalNumber.toFloating_eq {m : Nat} {q : Int} (h : Format.double.Holds m q) (hm : 0 < m)
    {d : Decimals} (hd : Format.double.Nearest m q d.toRat) (negative : Bool) :
    (finite negative d.digits d.place).toFloating = .finite negative m q := by
  have hdigits := Decimals.digits_pos (hd.pos hm)
  have hlength : 0 < decimalLength d.digits := List.length_pos_iff.mpr Nat.toDigits_ne_nil
  obtain ⟨hlower, hupper⟩ := Decimals.toRat_bounds hdigits
  have hlow : (-1075 : Int) < decimalLength d.digits + d.place := by
    apply (zpow_lt_zpow_iff_right₀ (by norm_num : (1 : ℚ) < 10)).mp
    calc (10 : ℚ) ^ (-1075 : Int) ≤ 2 ^ (-1075 : Int) := (two_zpow_le_ten_zpow (by decide)).2
      _ ≤ d.toRat := hd.two_zpow_le h hm
      _ < 10 ^ (decimalLength d.digits + d.place) := hupper
  have hhigh : ((decimalLength d.digits - 1 : Nat) : Int) + d.place < 1024 := by
    apply (zpow_lt_zpow_iff_right₀ (by norm_num : (1 : ℚ) < 10)).mp
    have hmax : q ≤ 971 := h.le_max
    have hbits : Format.double.fractionBits = 52 := rfl
    calc (10 : ℚ) ^ ((decimalLength d.digits - 1 : Nat) + d.place) ≤ d.toRat := hlower
      _ < 2 ^ (Format.double.fractionBits + q + 1) := hd.lt_two_zpow h
      _ ≤ 2 ^ (1024 : Int) := zpow_le_zpow_right₀ one_le_two (by omega)
      _ ≤ 10 ^ (1024 : Int) := (two_zpow_le_ten_zpow (by decide)).1
  have hlimit : magnitudeLimit = 5000 := rfl
  obtain ⟨num, den, hden, hvalue, hround⟩ :=
    toFloating_of_magnitude negative hdigits (e := d.place) (by omega) (by omega)
  rw [hround]
  exact Format.roundQuotient_eq h hm hden (hvalue ▸ hd) negative

/-- **The text of a finite double is read as that double.** -/
theorem Literal.floating?_text {m : Nat} {q : Int} (h : Format.double.Holds m q)
    (negative : Bool) : ∃ n : Numeral,
      (Floating.finite negative m q).text .double = Floating.signText negative ++ n.text ∧
      n.IsFloat ∧ floating? (Floating.signText negative ++ n.text) =
        some (.finite negative m q) := by
  obtain ⟨n, htext, hfloat, hvalue⟩ := Floating.exists_numeral .double negative m q
  refine ⟨n, htext, hfloat, ?_⟩
  rw [n.floating?_text]
  congr 1
  rcases Nat.eq_zero_or_pos m with rfl | hm
  · have hq : q = Format.double.minExponent := h.normal.resolve_right (by decide)
    have hzero : n.decimals.digits = 0 := by
      have hpower : (10 : ℚ) ^ n.decimals.place ≠ 0 := by positivity
      have hproduct : (n.decimals.digits : ℚ) * 10 ^ n.decimals.place = 0 := by
        calc (n.decimals.digits : ℚ) * 10 ^ n.decimals.place = (Format.double.shortest 0 q).toRat :=
              hvalue
          _ = 0 := by simp [Format.shortest, Decimals.toRat]
      exact_mod_cast (mul_eq_zero.mp hproduct).resolve_right hpower
    rw [hzero, hq]
    rfl
  · refine DecimalNumber.toFloating_eq h hm ?_ negative
    rw [hvalue]
    exact Format.nearest_shortest (by decide) h hm

end SeriesClient
