import SeriesClient.Column.Role
import SeriesClient.Proofs.Text.Utf8

set_option relaxedAutoImplicit false
set_option autoImplicit false

/-!
# Which texts declare a role

A role is declared by a name space, the word for columns and the role itself, with a field type
behind it if it is a field; two colons stand between them. A text is cut at pairs of colons, and if
it is none of the known declarations, only the third part is looked at. So a text with `field` in
the third place is taken for a field, whatever stands before it.

## Main definitions

* `SeriesClient.ColumnType.IsPart` — what can stand before a separator.
* `SeriesClient.ColumnType.HasFieldThird` — texts with `field` in the third place.
* `SeriesClient.ColumnType.Declares` — the declarations of a role.
* `SeriesClient.ColumnType.IsStray` — texts that are taken for a field and are no declaration.

## Main results

* `SeriesClient.ColumnType.splitParts_eq_cons_iff` — the first part and the others.
* `SeriesClient.ColumnType.ofText?_eq_some_iff` — the role that a text is read as.
* `SeriesClient.ColumnType.metadata_declares_or_strays` — the same for metadata, which may come as
  bytes.

## Design

Colons can stand next to each other in odd numbers. The leftmost pair separates, so a part can begin
with a colon but never end with one, unless it is the last.
-/

namespace SeriesClient.ColumnType

/-! ## Parts -/

/-- What separates the parts of a declaration. -/
def separator : List Char := [':', ':']

/-- What can stand before a separator: no separator is complete before the end of that one. -/
def IsPart (part : List Char) : Prop := ¬ separator <:+: part ++ [':']

/-- A character that begins no separator belongs to the part that is read. -/
lemma splitParts_cons {c : Char} {cs : List Char} (h : ¬ separator <+: c :: cs)
    (current : List Char) : splitParts current (c :: cs) = splitParts (c :: current) cs := by
  refine splitParts.eq_2 current c cs fun rest hc hcs => h ?_
  rw [hc, hcs]
  exact ⟨rest, rfl⟩

/-- A part ends where a separator begins. -/
lemma splitParts_append {part : List Char} (h : IsPart part) (current rest : List Char) :
    splitParts current (part ++ separator ++ rest) =
      (current.reverse ++ part) :: splitParts [] rest := by
  induction part generalizing current with
  | nil => rw [List.append_nil]; rfl
  | cons c part ih =>
    have hpart : IsPart part := fun hwithin => h (List.infix_cons hwithin)
    have hnone : ¬ separator <+: c :: (part ++ separator ++ rest) := by
      intro hbegins
      -- the separator has two characters, so it ends with the first colon behind the part
      have hshort : separator <+: c :: part ++ [':'] := by
        refine List.prefix_of_prefix_length_le hbegins ⟨':' :: rest, by simp [separator]⟩ ?_
        simp [separator]
      exact h hshort.isInfix
    rw [List.cons_append, List.cons_append, splitParts_cons hnone, ih hpart, List.reverse_cons,
      List.append_assoc, List.singleton_append]

/-- Without a separator there is one part. -/
lemma splitParts_of_no_separator {cs : List Char} (h : ¬ separator <:+: cs)
    (current : List Char) : splitParts current cs = [current.reverse ++ cs] := by
  induction cs generalizing current with
  | nil => rw [splitParts, List.append_nil]
  | cons c cs ih =>
    have hnone : ¬ separator <+: c :: cs := fun hbegins => h hbegins.isInfix
    rw [splitParts_cons hnone, ih fun hwithin => h (List.infix_cons hwithin), List.reverse_cons,
      List.append_assoc, List.singleton_append]

/-- A text has no separator, or it has a first one. -/
lemma exists_first_separator (cs : List Char) :
    (¬ separator <:+: cs) ∨ ∃ part rest, IsPart part ∧ cs = part ++ separator ++ rest := by
  induction cs with
  | nil => exact .inl (by simp [separator])
  | cons c cs ih =>
    by_cases hbegins : separator <+: c :: cs
    · obtain ⟨rest, hrest⟩ := hbegins
      refine .inr ⟨[], rest, ?_, hrest.symm⟩
      intro hwithin
      have hlength := hwithin.length_le
      simp [separator] at hlength
    · rcases ih with hnone | ⟨part, rest, hpart, rfl⟩
      · left
        rw [List.infix_cons_iff]
        exact not_or.mpr ⟨hbegins, hnone⟩
      · refine .inr ⟨c :: part, rest, ?_, rfl⟩
        rw [IsPart, List.cons_append, List.infix_cons_iff]
        refine not_or.mpr ⟨fun hshort => hbegins (hshort.trans ⟨':' :: rest, ?_⟩), hpart⟩
        simp [separator]

/-- **The first part of a text, and the others.** -/
theorem splitParts_eq_cons_iff {cs part : List Char} {parts : List (List Char)} :
    splitParts [] cs = part :: parts ↔
      (parts = [] ∧ cs = part ∧ ¬ separator <:+: cs) ∨
        ∃ rest, IsPart part ∧ cs = part ++ separator ++ rest ∧ splitParts [] rest = parts := by
  constructor
  · intro h
    rcases exists_first_separator cs with hnone | ⟨first, rest, hfirst, rfl⟩
    · rw [splitParts_of_no_separator hnone] at h
      obtain ⟨hpart, hparts⟩ := List.cons.inj h
      exact .inl ⟨hparts.symm, hpart, hnone⟩
    · rw [splitParts_append hfirst] at h
      obtain ⟨rfl, hparts⟩ := List.cons.inj h
      exact .inr ⟨rest, hfirst, rfl, hparts⟩
  · rintro (⟨rfl, rfl, hnone⟩ | ⟨rest, hpart, rfl, rfl⟩)
    · exact splitParts_of_no_separator hnone []
    · exact splitParts_append hpart [] rest

/-- Two parts and the text behind them. -/
lemma splitParts_eq_cons_cons_iff {cs a b third : List Char} {parts : List (List Char)} :
    splitParts [] cs = a :: b :: third :: parts ↔
      IsPart a ∧ IsPart b ∧ ∃ rest, cs = a ++ separator ++ (b ++ separator ++ rest) ∧
        splitParts [] rest = third :: parts := by
  rw [splitParts_eq_cons_iff]
  constructor
  · rintro (⟨hnil, -⟩ | ⟨tail, ha, rfl, htail⟩)
    · nomatch hnil
    · rcases splitParts_eq_cons_iff.mp htail with ⟨hnil, -⟩ | ⟨rest, hb, rfl, hrest⟩
      · nomatch hnil
      · exact ⟨ha, hb, rest, rfl, hrest⟩
  · rintro ⟨ha, hb, rest, rfl, hrest⟩
    exact .inr ⟨_, ha, rfl, splitParts_eq_cons_iff.mpr (.inr ⟨rest, hb, rfl, hrest⟩)⟩

/-! ## Declarations -/

/-- The declarations of a role: the known ones, and a field alone or with an unknown type. -/
inductive Declares : String → ColumnType → Prop
  /-- A known declaration. -/
  | known {c : ColumnType} (hc : c ∈ declared) : Declares c.metadata c
  /-- A field without a type. -/
  | field : Declares "iox::column_type::field" (.field none)
  /-- A field with an unknown type. -/
  | typed {type : String} (htype : ∀ known : FieldType, type ≠ known.name) :
      Declares ("iox::column_type::field::" ++ type) (.field none)

/-- A text has `field` in the third place, behind the parts `a` and `b`, as its last part or with
others behind it. -/
def HasFieldThird (a b cs : List Char) : Prop :=
  IsPart a ∧ IsPart b ∧
    (cs = a ++ separator ++ (b ++ separator ++ "field".toList) ∨
      ∃ rest, cs = a ++ separator ++ (b ++ separator ++ ("field".toList ++ separator ++ rest)))

/-- Texts that have `field` in the third place, behind parts that are not those of a
declaration. -/
def IsStray (s : String) : Prop :=
  ∃ a b : List Char, (a, b) ≠ ("iox".toList, "column_type".toList) ∧ HasFieldThird a b s.toList

/-- A word without a colon can stand before a separator. -/
lemma isPart_of_no_colon {part : List Char} (h : ':' ∉ part) : IsPart part := by
  intro hwithin
  have hcount := hwithin.sublist.count_le ':'
  rw [List.count_append, List.count_eq_zero_of_not_mem h] at hcount
  exact absurd hcount (by decide)

/-- A word without a colon has no separator. -/
lemma no_separator_of_no_colon {cs : List Char} (h : ':' ∉ cs) : ¬ separator <:+: cs :=
  fun hwithin => isPart_of_no_colon h (hwithin.trans (List.prefix_append cs [':']).isInfix)

/-- The name space and the word for columns can stand before a separator. -/
lemma isPart_head : IsPart "iox".toList ∧ IsPart "column_type".toList :=
  ⟨isPart_of_no_colon (by decide), isPart_of_no_colon (by decide)⟩

/-- The texts that have `field` in the third place. -/
lemma third_eq_field_iff {cs a b : List Char} :
    (∃ parts, splitParts [] cs = a :: b :: "field".toList :: parts) ↔ HasFieldThird a b cs := by
  simp only [splitParts_eq_cons_cons_iff]
  constructor
  · rintro ⟨parts, ha, hb, tail, rfl, htail⟩
    refine ⟨ha, hb, ?_⟩
    rcases splitParts_eq_cons_iff.mp htail with ⟨-, rfl, -⟩ | ⟨rest, -, rfl, -⟩
    · exact .inl rfl
    · exact .inr ⟨rest, rfl⟩
  · rintro ⟨ha, hb, rfl | ⟨rest, rfl⟩⟩
    · have hlast : ¬ separator <:+: "field".toList := no_separator_of_no_colon (by decide)
      exact ⟨[], ha, hb, _, rfl, splitParts_eq_cons_iff.mpr (.inl ⟨rfl, rfl, hlast⟩)⟩
    · have hpart : IsPart "field".toList := isPart_of_no_colon (by decide)
      exact ⟨_, ha, hb, _, rfl, splitParts_eq_cons_iff.mpr (.inr ⟨rest, hpart, rfl, rfl⟩)⟩

/-- Each role has a text of its own. -/
lemma metadata_injective {c d : ColumnType} (h : c.metadata = d.metadata) : c = d := by
  have hread := ofText?_metadata c
  rw [h, ofText?_metadata d] at hread
  exact (Option.some.inj hread).symm

/-- A text that is no known declaration is a field by its third part. -/
lemma ofText?_of_unknown {s : String} (h : ∀ d ∈ declared, d.metadata ≠ s) {c : ColumnType} :
    ofText? s = some c ↔ c = .field none ∧ ∃ a b, HasFieldThird a b s.toList := by
  simp only [← third_eq_field_iff]
  have hnone : declared.find? (·.metadata == s) = none := by
    rw [List.find?_eq_none]
    intro d hd
    simpa using h d hd
  rw [ofText?, hnone]
  dsimp only
  split
  · next a b third parts hparts =>
    split
    · next hfield =>
      subst hfield
      refine ⟨fun hc => ⟨(Option.some.inj hc).symm, a, b, parts, hparts⟩, fun hc => ?_⟩
      rw [hc.1]
    · next hother =>
      refine iff_of_false nofun ?_
      rintro ⟨-, a', b', parts', hfield⟩
      rw [hparts] at hfield
      simp only [List.cons.injEq] at hfield
      exact hother hfield.2.2.1
  · next hshort =>
    refine iff_of_false nofun ?_
    rintro ⟨-, a, b, parts, hfield⟩
    exact hshort a b _ parts hfield

/-- The text of a known role is cut after the name space and the word for columns. -/
lemma splitParts_metadata (c : ColumnType) :
    ∃ parts, splitParts [] c.metadata.toList = "iox".toList :: "column_type".toList :: parts := by
  rcases c with (_ | ⟨⟨⟩⟩) | _ | _ | _
  all_goals exact ⟨_, rfl⟩

/-- The declaration of a field has `field` in the third place, whatever its type. -/
lemma hasFieldThird_typed (type : String) :
    HasFieldThird "iox".toList "column_type".toList
      ("iox::column_type::field::" ++ type).toList := by
  refine ⟨isPart_head.1, isPart_head.2, .inr ⟨type.toList, ?_⟩⟩
  rw [String.toList_append]
  rfl

/-- The declaration of a field with a known type. -/
lemma metadata_typed (known : FieldType) :
    (field (some known)).metadata = "iox::column_type::field::" ++ known.name := by
  cases known <;> decide +kernel

/-- A field with an unknown type has no known declaration. -/
lemma metadata_ne_typed {type : String} (htype : ∀ known : FieldType, type ≠ known.name)
    {c : ColumnType} (hc : c ∈ declared) : c.metadata ≠ "iox::column_type::field::" ++ type := by
  intro h
  obtain ⟨parts, hparts⟩ := third_eq_field_iff.mpr (hasFieldThird_typed type)
  have hthird : (splitParts [] c.metadata.toList)[2]? = some "field".toList := by
    rw [h, hparts]
    rfl
  rcases c with (_ | known) | _ | _ | _
  · exact absurd hc (by decide)
  · rw [metadata_typed] at h
    exact htype known ((String.append_right_inj _).mp h).symm
  all_goals exact absurd hthird (by decide +kernel)

/-- A known declaration declares its own role only. -/
lemma Declares.eq_of_metadata {c d : ColumnType} (h : Declares d.metadata c)
    (hd : d ∈ declared) : d = c := by
  generalize hs : d.metadata = s at h
  cases h with
  | known => exact metadata_injective hs
  | field => exact metadata_injective (hs.trans (by decide +kernel))
  | typed htype => exact absurd hs (metadata_ne_typed htype hd)

/-- What strays is not cut after the name space and the word for columns. -/
lemma IsStray.not_cut {s : String} (h : IsStray s) (parts : List (List Char)) :
    splitParts [] s.toList ≠ "iox".toList :: "column_type".toList :: parts := by
  obtain ⟨a, b, hab, hthird⟩ := h
  obtain ⟨parts', hparts⟩ := third_eq_field_iff.mpr hthird
  intro hcut
  rw [hparts] at hcut
  simp only [List.cons.injEq] at hcut
  exact hab (Prod.ext hcut.1 hcut.2.1)

/-- What strays is no known declaration. -/
lemma IsStray.metadata_ne {s : String} (h : IsStray s) (c : ColumnType) : c.metadata ≠ s := by
  rintro rfl
  obtain ⟨parts, hparts⟩ := splitParts_metadata c
  exact h.not_cut parts hparts

/-- A text with `field` in the third place declares a field, or strays. -/
lemma declares_or_isStray {s : String} (hunknown : ∀ d ∈ declared, d.metadata ≠ s)
    {a b : List Char} (h : HasFieldThird a b s.toList) :
    Declares s (.field none) ∨ IsStray s := by
  by_cases hab : (a, b) = ("iox".toList, "column_type".toList)
  · obtain ⟨rfl, rfl⟩ := Prod.mk.inj hab
    left
    rcases h.2.2 with hs | ⟨rest, hs⟩
    · obtain rfl : s = "iox::column_type::field" := String.toList_injective hs
      exact .field
    · obtain rfl : s = "iox::column_type::field::" ++ String.ofList rest := by
        have hrest : (String.ofList rest).toList = rest := String.toList_ofList
        apply String.toList_injective
        rw [hs, String.toList_append, hrest]
        rfl
      refine .typed fun known hknown => hunknown (.field (some known)) ?_ ?_
      · cases known <;> decide
      · rw [hknown]
        exact metadata_typed known
  · exact .inr ⟨a, b, hab, h⟩

/-- **The role that a text is read as**: the one that it declares, or a field of unknown type if it
strays. -/
theorem ofText?_eq_some_iff {s : String} {c : ColumnType} :
    ofText? s = some c ↔ Declares s c ∨ c = .field none ∧ IsStray s := by
  by_cases hknown : ∃ d ∈ declared, d.metadata = s
  · obtain ⟨d, hd, rfl⟩ := hknown
    rw [ofText?_metadata]
    constructor
    · intro h
      obtain rfl := Option.some.inj h
      exact .inl (.known hd)
    · rintro (h | ⟨-, hstray⟩)
      · exact congrArg some (h.eq_of_metadata hd)
      · exact absurd rfl (hstray.metadata_ne d)
  · have hunknown : ∀ d ∈ declared, d.metadata ≠ s := fun d hd hs => hknown ⟨d, hd, hs⟩
    rw [ofText?_of_unknown hunknown]
    constructor
    · rintro ⟨rfl, a, b, hthird⟩
      exact (declares_or_isStray hunknown hthird).imp_right fun hstray => ⟨rfl, hstray⟩
    · rintro (hdeclares | ⟨rfl, a, b, -, hthird⟩)
      · cases hdeclares with
        | known hc => exact absurd rfl (hunknown _ hc)
        | field => exact ⟨rfl, _, _, isPart_head.1, isPart_head.2, .inl rfl⟩
        | typed => exact ⟨rfl, _, _, hasFieldThird_typed _⟩
      · exact ⟨rfl, a, b, hthird⟩

/-- A text that declares no role and does not stray is read as none. -/
lemma ofText?_eq_none_iff {s : String} :
    ofText? s = none ↔ (∀ c, ¬ Declares s c) ∧ ¬ IsStray s := by
  rw [Option.eq_none_iff_forall_ne_some]
  simp only [ne_eq, ofText?_eq_some_iff, not_or, not_and]
  exact ⟨fun h => ⟨fun c => (h c).1, (h (.field none)).2 rfl⟩, fun h c => ⟨h.1 c, fun _ => h.2⟩⟩

/-- Every declaration begins with the name space and the word for columns. -/
lemma Declares.isPrefix {s : String} {c : ColumnType} (h : Declares s c) :
    "iox::column_type::".toList <+: s.toList := by
  have happend : ∀ t : String, "iox::column_type::".toList <+: ("iox::column_type::" ++ t).toList :=
    fun t => ⟨t.toList, String.toList_append.symm⟩
  cases h with
  | @known c => exact happend c.label
  | field => exact happend "field"
  | @typed type => exact happend ("field::" ++ type)

/-- What begins with the name space and the word for columns does not stray. -/
lemma IsStray.not_isPrefix {s : String} (h : IsStray s) :
    ¬ "iox::column_type::".toList <+: s.toList := by
  rintro ⟨rest, hrest⟩
  refine h.not_cut (splitParts [] rest) ?_
  rw [← hrest]
  exact splitParts_eq_cons_iff.mpr (.inr ⟨_, isPart_head.1, rfl,
    splitParts_append isPart_head.2 [] rest⟩)

/-- **What metadata is accepted.** A text is read as the role that it declares, and as a field of
unknown type if it strays; as none otherwise. The bytes of the text come to the same. What strays is
no declaration, and does not begin like one. -/
theorem metadata_declares_or_strays (s : String) :
    (∀ c, ofMetadata? (.text s) = .ok (some c) ↔ Declares s c ∨ c = .field none ∧ IsStray s) ∧
    (ofMetadata? (.text s) = .ok none ↔ (∀ c, ¬ Declares s c) ∧ ¬ IsStray s) ∧
    ofMetadata? (.bytes (Utf8.encode s)) = ofMetadata? (.text s) ∧
    (∀ c, Declares s c → "iox::column_type::".toList <+: s.toList) ∧
    (IsStray s → (∀ c, ¬ Declares s c) ∧ ¬ "iox::column_type::".toList <+: s.toList) := by
  have htext : ofMetadata? (.text s) = .ok (ofText? s) := rfl
  have hbytes : ofMetadata? (.bytes (Utf8.encode s)) =
      .ok (ofText? (String.ofList (Utf8.decodeLossy (Utf8.encode s)))) := rfl
  refine ⟨fun c => ?_, ?_, ?_, fun c => Declares.isPrefix, fun hstray => ⟨fun c hc => ?_, ?_⟩⟩
  · rw [htext, Except.ok.injEq, ofText?_eq_some_iff]
  · rw [htext, Except.ok.injEq, ofText?_eq_none_iff]
  · rw [htext, hbytes, Utf8.decodeLossy_encode, String.ofList_toList]
  · exact hstray.not_isPrefix hc.isPrefix
  · exact hstray.not_isPrefix

/-- A text with `field` in the third place is read as a field, and declares nothing. -/
theorem not_declared_strayField :
    ofMetadata? (.text "a::b::field") = .ok (some (.field none)) ∧
      ∀ c, ¬ Declares "a::b::field" c := by
  have hread : ofText? "a::b::field" = some (.field none) := by decide +kernel
  refine ⟨congrArg Except.ok hread, fun c hc => ?_⟩
  exact absurd hc.isPrefix (by decide +kernel)

end SeriesClient.ColumnType
