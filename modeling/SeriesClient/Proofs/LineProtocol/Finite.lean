import SeriesClient.Proofs.LineProtocol.Anatomy
import SeriesClient.Proofs.LineProtocol.RoundTrip
import SeriesClient.Proofs.Point.Objects

set_option relaxedAutoImplicit false
set_option autoImplicit false

/-!
# Floating-point numbers in lines

A floating-point field that comes to a finite double is written in positional notation. One that
does not is left out, unless it is a decimal: a decimal without a finite double is written as the
infinity or the not-a-number that it comes to, and one that signals keeps the point from being
written.

## Main definitions

* `SeriesClient.Value.double?` — the double that a floating-point value comes to.
* `SeriesClient.Point.Refuses` — why a point cannot be written.
* `SeriesClient.Point.Writes` — what a field is written as.

## Main results

* `SeriesClient.isDefined_eq` — which values are written.
* `SeriesClient.Point.line_floats` — what becomes of the floating-point fields of a point.
-/

namespace SeriesClient

/-! ## Floating-point values -/

namespace Value

/-- The double that a floating-point value comes to: a number of any width is itself, and a decimal
is rounded. -/
def double? : Value → Option Floating
  | float x | sized (.floating _ x) => some x
  | decimal d => some d.toFloating
  | _ => none

/-- Whether a value is present and does not come to a double that is infinite or not a number. -/
def isWritable (v : Value) : Bool := !v.isNull && v.double?.all Floating.isFinite

/-- Whether a value is a decimal that comes to no finite double. -/
def isStrayDecimal : Value → Bool
  | decimal d => !d.toFloating.isFinite
  | _ => false

variable {v : Value}

/-- The floating-point values are those that come to a double. -/
lemma infer?_eq_float_iff : FieldKind.infer? v = some .float ↔ ∃ x, v.double? = some x := by
  cases v with
  | sized n => cases n <;> simp [FieldKind.infer?, double?]
  | _ => simp [FieldKind.infer?, double?]

end Value

/-- **Which values are written**: those that are writable, and in addition the decimals that come to
no finite double. -/
theorem isDefined_eq (v : Value) : isDefined v = (v.isWritable || v.isStrayDecimal) := by
  cases v with
  | sized n => cases n <;> simp [isDefined, Value.isWritable, Value.isStrayDecimal, Value.isNull,
      Value.double?]
  | _ => simp [isDefined, Value.isWritable, Value.isStrayDecimal, Value.isNull, Value.double?]

/-- What a number without a finite value is spelled as. -/
def strayTexts : List (List Char) := ["nan".toList, "inf".toList, "-inf".toList]

/-- A number that is not finite is spelled as one of three texts. -/
lemma Floating.positional_mem_strayTexts (f : Format) {x : Floating} (h : x.isFinite = false) :
    x.positional f ∈ strayTexts := by
  cases x with
  | nan => exact List.mem_cons_self
  | infinite negative => cases negative <;> simp [positional, spell, signText, strayTexts]
  | finite negative m q => cases h

namespace FieldKind

/-- **A floating-point value that comes to a finite double is written in positional notation.** -/
lemma exists_writeFloat_of_isWritable {v : Value} (hkind : infer? v = some .float)
    (h : v.isWritable = true) : ∃ text, writeFloat v = .ok text ∧ IsNumeral text := by
  obtain ⟨x, hx⟩ := Value.infer?_eq_float_iff.1 hkind
  have hfinite : x.isFinite = true := by
    simpa [Value.isWritable, hx] using (Bool.and_eq_true_iff.1 h).2
  cases v with
  | float y =>
    obtain rfl := Option.some.inj hx
    exact ⟨_, rfl, y.isNumeral_positional .double hfinite⟩
  | decimal d =>
    obtain rfl := Option.some.inj hx
    rcases d.toDouble_cases with hd | ⟨negative, payload, rfl⟩
    · exact ⟨_, writeFloat_decimal hd, d.toFloating.isNumeral_positional .double hfinite⟩
    · cases hfinite
  | sized n =>
    cases n with
    | floating width y =>
      obtain rfl := Option.some.inj hx
      exact ⟨_, rfl, y.isNumeral_positional width.format hfinite⟩
    | _ => cases hx
  | _ => cases hx

/-- A decimal is a floating-point value. -/
lemma infer?_of_isStrayDecimal {v : Value} (h : v.isStrayDecimal = true) :
    infer? v = some .float := by
  cases v <;> first | rfl | cases h

/-- A decimal that comes to no finite double is written as what it comes to, unless it signals. -/
lemma writeFloat_of_isStrayDecimal {v : Value} (h : v.isStrayDecimal = true) :
    (∃ text ∈ strayTexts, writeFloat v = .ok text) ∨
      (∃ negative payload, v = .decimal (.nan negative true payload)) ∧
        writeFloat v = .error (.invalid .doubleOfSignalingNan) := by
  cases v with
  | decimal d =>
    have hfinite : d.toFloating.isFinite = false := by simpa [Value.isStrayDecimal] using h
    rcases d.toDouble_cases with hd | ⟨negative, payload, rfl⟩
    · exact .inl ⟨_, d.toFloating.positional_mem_strayTexts .double hfinite, writeFloat_decimal hd⟩
    · exact .inr ⟨⟨negative, payload, rfl⟩, rfl⟩
  | _ => cases h

/-- Of the floating-point values to be written, only a decimal that signals cannot be. -/
lemma exists_of_writeFloat_eq_error {v : Value} {fault : Fault} (hkind : infer? v = some .float)
    (hdefined : isDefined v = true) (h : writeFloat v = .error fault) :
    (∃ negative payload, v = .decimal (.nan negative true payload)) ∧
      fault = .invalid .doubleOfSignalingNan := by
  rw [isDefined_eq] at hdefined
  rcases Bool.or_eq_true_iff.1 hdefined with hwritable | hstray
  · obtain ⟨text, htext, -⟩ := exists_writeFloat_of_isWritable hkind hwritable
    cases htext.symm.trans h
  · rcases writeFloat_of_isStrayDecimal hstray with ⟨text, -, htext⟩ | ⟨hsignal, herror⟩
    · cases htext.symm.trans h
    · exact ⟨hsignal, Except.error.inj (h.symm.trans herror)⟩

end FieldKind

/-! ## Names that can be written -/

/-- A sequence that consists of texts equals itself. -/
lemma Value.sameAll_of_pieces {i : Nat} {xs : List Value} {texts : List (List Char)}
    (h : LineText.pieces i xs = .ok texts) : sameAll xs xs = true := by
  induction xs generalizing i texts with
  | nil => rfl
  | cons x xs ih =>
    cases x with
    | text s =>
      obtain ⟨more, hmore, -⟩ := bind_eq_ok_iff.1 h
      rw [sameAll, ih hmore, Bool.and_true]
      exact (same_text s s).trans (beq_self_eq_true s)
    | _ => cases h

/-- A key that can be written as a name equals itself. -/
lemma Value.beq_self_of_escapeValue {escape : Char → List Char} {v : Value} {cs : List Char}
    (hkey : v.unhashable? = none) (h : LineText.escapeValue escape v = .ok cs) :
    (v == v) = true := by
  cases v with
  | text s => exact (same_text s s).trans (beq_self_eq_true s)
  | bytes bs => exact beq_self_eq_true bs
  | list xs => cases hkey
  | dict entries => cases hkey
  | tuple xs =>
    obtain ⟨items, hitems, h⟩ := bind_eq_ok_iff.1 h
    obtain ⟨_, -, h⟩ := bind_eq_ok_iff.1 h
    obtain ⟨texts, hpieces, -⟩ := bind_eq_ok_iff.1 h
    obtain rfl := Except.ok.inj hitems
    exact sameAll_of_pieces hpieces
  | _ => cases h

/-! ## Fields -/

namespace Point

variable {p : Point} {precision defaults : Value} {e : Value × Value} {text : List Char}
  {fault : Fault}

/-- What a field is written as: the name, an equals sign, and the value as the kind of the field.
A number that is writable is in positional notation, and a decimal that comes to no finite double
is not. -/
def Writes (p : Point) (e : Value × Value) (text : List Char) : Prop :=
  ∃ name value, text = name ++ '=' :: value ∧
    LineText.escapeValue LineText.keyChar e.1 = .ok name ∧
    FieldKind.write (p.values.kind? e.1) e.2 = .ok value ∧
    (p.values.kind? e.1 = some .float → e.2.isWritable = true → IsNumeral value) ∧
    (e.2.isStrayDecimal = true → value ∈ strayTexts)

/-- Why a point cannot be written. No floating-point field is among the reasons, unless it is a
decimal that signals. -/
inductive Refuses (p : Point) (precision defaults : Value) (fault : Fault) : Prop where
  /-- The name of a field is no name. -/
  | fieldName {e : Value × Value} (he : e ∈ p.definedFields)
    (hname : LineText.escapeValue LineText.keyChar e.1 = .error fault)
  /-- The value of a field of another kind cannot be written. -/
  | fieldValue {e : Value × Value} (he : e ∈ p.definedFields)
    (hkind : p.values.kind? e.1 ≠ some .float)
    (hvalue : FieldKind.write (p.values.kind? e.1) e.2 = .error fault)
  /-- The value of a field is a decimal that signals. -/
  | signal {name : Value} {negative : Bool} {payload : Option Nat}
    (he : (name, .decimal (.nan negative true payload)) ∈ p.definedFields)
    (hfault : fault = .invalid .doubleOfSignalingNan)
  /-- The measurement or the tags cannot be written. -/
  | opening (h : p.opening defaults = .error fault)
  /-- The timestamp is wanted in a unit that is none. -/
  | timestamp (h : timestampText precision p.values.timestamp = .error fault)

/-- The kind that is kept for a field with a name that can be written is that of its value. -/
lemma kind?_of_escapeValue (hreach : p.values.Reachable) (he : e ∈ p.definedFields)
    {name : List Char} (hname : LineText.escapeValue LineText.keyChar e.1 = .ok name) :
    p.values.kind? e.1 = FieldKind.infer? e.2 := by
  have hmem : e.1 ∈ p.values.fields.keys := List.mem_map_of_mem (List.mem_filter.1 he).1
  obtain ⟨-, hkey⟩ := hreach.of_isInvariant PointValues.isInvariant_named (fun _ => nofun) e.1 hmem
  exact kind?_eq_infer? hreach.consistent (Value.beq_self_of_escapeValue hkey hname) he

/-- A field has a text that begins with its name and ends with its value. -/
lemma writes_of_fieldText (hreach : p.values.Reachable) (he : e ∈ p.definedFields)
    (h : p.fieldText e = .ok text) : p.Writes e text := by
  obtain ⟨name, hname, h⟩ := bind_eq_ok_iff.1 h
  obtain ⟨value, hvalue, h⟩ := bind_eq_ok_iff.1 h
  have hkind := kind?_of_escapeValue hreach he hname
  refine ⟨name, value, (Except.ok.inj h).symm, hname, hvalue, fun hfloat hwritable => ?_,
    fun hstray => ?_⟩
  · obtain ⟨cs, hcs, hnumeral⟩ :=
      FieldKind.exists_writeFloat_of_isWritable (hkind.symm.trans hfloat) hwritable
    rw [hfloat, FieldKind.write] at hvalue
    obtain rfl := Except.ok.inj (hcs.symm.trans hvalue)
    exact hnumeral
  · rw [hkind, FieldKind.infer?_of_isStrayDecimal hstray, FieldKind.write] at hvalue
    rcases FieldKind.writeFloat_of_isStrayDecimal hstray with ⟨cs, hmem, hcs⟩ | ⟨-, herror⟩
    · obtain rfl := Except.ok.inj (hcs.symm.trans hvalue)
      exact hmem
    · cases herror.symm.trans hvalue

/-- A field that has no text has a name that is none, is of another kind, or signals. -/
lemma refuses_of_fieldText (hreach : p.values.Reachable) (he : e ∈ p.definedFields)
    (h : p.fieldText e = .error fault) : p.Refuses precision defaults fault := by
  rw [fieldText] at h
  rcases cases_of_bind_eq_error h with hname | ⟨name, hname, hwrite⟩
  · exact .fieldName he hname
  rcases cases_of_bind_eq_error hwrite with hvalue | ⟨value, -, hnone⟩
  · have hkind := kind?_of_escapeValue hreach he hname
    by_cases hfloat : p.values.kind? e.1 = some .float
    · rw [hfloat, FieldKind.write] at hvalue
      obtain ⟨⟨negative, payload, hsignal⟩, hfault⟩ := FieldKind.exists_of_writeFloat_eq_error
        (hkind.symm.trans hfloat) (List.mem_filter.1 he).2 hvalue
      have hfield : (e.1, e.2) ∈ p.definedFields := he
      rw [hsignal] at hfield
      exact .signal hfield hfault
    · exact .fieldValue he hfloat hvalue
  · cases hnone

/-! ## Lines -/

/-- The fields that are written are those with writable values, and in addition the decimals that
come to no finite double. -/
lemma definedFields_eq (p : Point) : p.definedFields =
    p.values.fields.entries.filter fun e => e.2.isWritable || e.2.isStrayDecimal :=
  List.filter_congr fun e _ => isDefined_eq e.2

/-- **What becomes of the floating-point fields of a point.** A point that cannot be written has
a reason other than a floating-point field, unless that is a decimal that signals. The line of one
that can be written has its fields with writable values, in their order, with the numbers among
them in positional notation, and in addition the decimals that come to no finite double. And
without any field of these two sorts the line is empty. -/
theorem line_floats (hreach : p.values.Reachable) (precision defaults : Value) :
    (∀ fault, p.line precision defaults = .error fault → p.Refuses precision defaults fault) ∧
    (∀ text, p.line precision defaults = .ok text → text ≠ [] →
      ∃ opening fields closing, text = opening ++ ' ' :: List.intercalate [','] fields ++ closing ∧
        p.opening defaults = .ok opening ∧
        List.Forall₂ p.Writes
          (p.values.fields.entries.filter fun e => e.2.isWritable || e.2.isStrayDecimal) fields ∧
        timestampText precision p.values.timestamp = .ok closing) ∧
    ((∀ e ∈ p.values.fields.entries, e.2.isWritable = false ∧ e.2.isStrayDecimal = false) →
      p.line precision defaults = .ok []) := by
  refine ⟨fun fault h => ?_, fun text h hne => ?_, fun hnone => ?_⟩
  · rcases p.cases_of_line_eq_error precision defaults h with ⟨e, he, hfield⟩ | hopening | htime
    · exact refuses_of_fieldText hreach he hfield
    · exact .opening hopening
    · exact .timestamp htime
  · rw [p.line_eq _ _ (mt (line_eq_nil_iff h).2 hne)] at h
    obtain ⟨fields, hfields, h⟩ := bind_eq_ok_iff.1 h
    obtain ⟨opening, hopening, h⟩ := bind_eq_ok_iff.1 h
    obtain ⟨closing, hclosing, h⟩ := bind_eq_ok_iff.1 h
    refine ⟨opening, fields, closing, (Except.ok.inj h).symm, hopening, ?_, hclosing⟩
    rw [← definedFields_eq]
    exact forall₂_of_mapM_eq_ok (fun e he _ => writes_of_fieldText hreach he) hfields
  · refine p.line_of_no_fields precision defaults ?_
    rw [definedFields_eq, List.filter_eq_nil_iff]
    intro e he
    simp [hnone e he]

/-- A point with one decimal as its field. -/
def decimalPoint (d : DecimalNumber) : Point :=
  ⟨((PointValues.new (.text "m")).run (.setField (.text "f") (.decimal d))).2⟩

/-- The line of a point with one decimal as its field. -/
lemma line_decimalPoint {d : DecimalNumber} {value : List Char}
    (h : FieldKind.writeFloat (.decimal d) = .ok value) :
    (decimalPoint d).line .null .null = .ok ("m f=".toList ++ value) := by
  have hfield : (decimalPoint d).fieldText (.text "f", .decimal d) =
      .ok ("f=".toList ++ value) := by
    have hkind : (decimalPoint d).values.kind? (.text "f") = some .float := rfl
    simp only [fieldText, hkind, FieldKind.write, h]
    rfl
  have hdefined : (decimalPoint d).definedFields = [(.text "f", .decimal d)] := rfl
  have hopening : (decimalPoint d).opening .null = .ok "m".toList := opening_of_no_tags rfl
  rw [(decimalPoint d).line_eq _ _ (List.cons_ne_nil _ _), hopening, hdefined, List.mapM_cons,
    hfield]
  refine congrArg Except.ok ?_
  simp [List.intercalate]

/-- **Numbers that are not finite are written**, if they are decimals: a not-a-number, an infinity,
and a number that is too large for a double. And a not-a-number that signals keeps the point from
being written. -/
theorem not_left_out_decimals :
    (∀ d, (decimalPoint d).values.Reachable) ∧
    (decimalPoint (.nan false false none)).line .null .null = .ok "m f=nan".toList ∧
    (decimalPoint (.infinite true)).line .null .null = .ok "m f=-inf".toList ∧
    (decimalPoint (.finite false 1 6000)).line .null .null = .ok "m f=inf".toList ∧
    (decimalPoint (.nan false true none)).line .null .null =
      .error (.invalid .doubleOfSignalingNan) :=
  ⟨fun _ => .run _ (.new _), line_decimalPoint rfl, line_decimalPoint rfl, line_decimalPoint rfl,
    rfl⟩

/-- A point with a finite number and a number that is not finite. -/
def gaugePoint : Point :=
  ⟨[.setField (.text "t") (.float (.finite false 43 (-1))),
    .setField (.text "u") (.float .nan)].foldl
    (fun pv call => (pv.run call).2) (.new (.text "room"))⟩

/-- The line of the point has the finite number only. -/
theorem line_floats_gaugePoint : gaugePoint.values.Reachable ∧
    gaugePoint.line .null .null = .ok "room t=21.5".toList ∧
    ∃ opening fields closing,
      "room t=21.5".toList = opening ++ ' ' :: List.intercalate [','] fields ++ closing ∧
      gaugePoint.opening .null = .ok opening ∧
      List.Forall₂ gaugePoint.Writes [(.text "t", .float (.finite false 43 (-1)))] fields ∧
      timestampText .null gaugePoint.values.timestamp = .ok closing := by
  have hreach : gaugePoint.values.Reachable := .foldl (.new _) _
  have hopening : gaugePoint.opening .null = .ok "room".toList := opening_of_no_tags rfl
  have hline : gaugePoint.line .null .null = .ok "room t=21.5".toList := by
    rw [gaugePoint.line_eq _ _ (List.cons_ne_nil _ _), hopening]
    rfl
  exact ⟨hreach, hline, (line_floats hreach .null .null).2.1 _ hline (by decide)⟩

end Point

end SeriesClient
