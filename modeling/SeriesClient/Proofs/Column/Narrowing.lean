import SeriesClient.Column.Coercion
import SeriesClient.Point.Field
import SeriesClient.Proofs.Number.Conversion

set_option relaxedAutoImplicit false
set_option autoImplicit false

/-!
# What narrowing a cell comes to

Each role of a column has one kind of values, or leaves its values alone. A cell that stands for
such a value is narrowed to it, any other cell stays as it is, with a warning. Only for the role of
doubles there are cells that stop with a fault: integers that have no nearest double, and the
signaling not-a-number.

## Main definitions

* `SeriesClient.ColumnType.kind?` — the kind of the values that a role narrows to.
* `SeriesClient.FieldKind.Holds` — the plain values of a kind.
* `SeriesClient.Coercion.Narrows` — what a cell is as a value of its column.
* `SeriesClient.Coercion.Refuses` — the cells that stop with a fault.

## Main results

* `SeriesClient.Coercion.coerce_of_narrows`, `SeriesClient.Coercion.coerce_of_refuses`,
  `SeriesClient.Coercion.coerce_of_neither` — what becomes of a cell.
* `SeriesClient.Coercion.coerce_returns` — narrowing fails for the refused cells only.
* `SeriesClient.Coercion.coerce_canonical` — a result is of the kind of its column, or untouched.

## Design

`SeriesClient.Coercion.Narrows` is stated by the numbers that values stand for, not by the steps
that convert them. That it is a function, and that it excludes `SeriesClient.Coercion.Refuses`,
follows from what becomes of a cell.
-/

namespace SeriesClient

/-! ## Kinds of values -/

/-- The kind of the values of a field type. -/
def FieldType.kind : FieldType → FieldKind
  | integer | uinteger => .integer
  | float => .float
  | string => .string
  | boolean => .boolean

/-- The kind of the values that a role narrows to; `none` for a role that leaves them alone. -/
def ColumnType.kind? : ColumnType → Option FieldKind
  | field type => type.map FieldType.kind
  | tag | measurement => some .string
  | timestamp => some .integer

/-- What a warning says that the values of a role are. -/
def ColumnType.expected : ColumnType → String
  | field (some .integer) | field (some .uinteger) => "an integer"
  | field (some .float) => "a float"
  | field (some .boolean) => "a boolean"
  | timestamp => "a timestamp"
  | field (some .string) | tag | measurement => "a string"
  | field none => "anything"

/-- The plain values of a kind. -/
inductive FieldKind.Holds : FieldKind → Value → Prop
  | integer (n : Int) : Holds integer (.int n)
  | float (x : Floating) : Holds float (.float x)
  | string (s : String) : Holds string (.text s)
  | boolean (b : Bool) : Holds boolean (.bool b)

namespace Value

/-- The integer that a value of any width is. -/
def integer? : Value → Option Int
  | int n => some n
  | sized (.integer _ _ n) => some n
  | _ => none

/-- A value is an integer as itself, or of a fixed width. -/
lemma integer?_eq_some_iff {v : Value} {n : Int} :
    v.integer? = some n ↔ v = int n ∨ ∃ signed bits, v = sized (.integer signed bits n) := by
  rcases v with _ | _ | m | _ | _ | _ | _ | (⟨signed, bits, m⟩ | _ | _) | _ | _ | _ | _ | _ | _ | _
      | _ | _ | _ | _ <;>
    simp [integer?]

/-- Only an absent value is absent. -/
lemma isNull_iff {v : Value} : v.isNull = true ↔ v = null := by
  cases v <;> simp [isNull]

/-- A number is not absent. -/
lemma isNull_eq_false_of_isNumber {v : Value} (h : v.isNumber = true) : v.isNull = false := by
  cases v with
  | null => nomatch h
  | _ => rfl

/-- A truth value is not absent. -/
lemma isNull_eq_false_of_isBoolean {v : Value} (h : v.isBoolean = true) : v.isNull = false := by
  cases v with
  | null => nomatch h
  | _ => rfl

/-- A truth value is no number. -/
lemma isNumber_eq_false_of_isBoolean {v : Value} (h : v.isBoolean = true) :
    v.isNumber = false := by
  unfold isBoolean at h
  split at h
  · rfl
  · rfl
  · nomatch h

/-- A number is neither a truth value nor a text. -/
lemma not_isBoolean_not_isText_of_isNumber {v : Value} (h : v.isNumber = true) :
    v.isBoolean = false ∧ v.isText = false := by
  unfold isNumber at h
  split at h
  case h_6 => nomatch h
  all_goals exact ⟨rfl, rfl⟩

/-- An integer is a number. -/
lemma isNumber_of_integer? {v : Value} {n : Int} (h : v.integer? = some n) :
    v.isNumber = true := by
  rcases integer?_eq_some_iff.mp h with rfl | ⟨_, _, rfl⟩
  · rfl
  · rfl

/-- The plain text of a text is the text. -/
lemma unwrapText_text (s : String) : (text s).unwrapText = text s := by
  simp [unwrapText, toText, plain_text]

/-- The whole part of a number is the number without its fraction. -/
lemma wholePart?_eq_ok_iff {v : Value} (h : v.isNumber = true) {n : Int} :
    v.wholePart? = some (.ok n) ↔ ∃ r, v.number? = some (.rational r) ∧ towardZero r = n := by
  have hinteger : ∀ m : Int, some (.ok m : Except Fault Int) = some (.ok n) ↔
      ∃ r, some (Extended.rational m) = some (.rational r) ∧ towardZero r = n := by
    simp [towardZero_intCast]
  unfold isNumber at h
  split at h
  · exact hinteger _
  · exact (Option.some_inj.trans Floating.toInt_eq_ok_iff).trans (by simp [number?])
  · exact (Option.some_inj.trans DecimalNumber.toInt_eq_ok_iff).trans (by simp [number?])
  · exact hinteger _
  · exact (Option.some_inj.trans Floating.toInt_eq_ok_iff).trans (by
      simp [number?, Sized.toExtended])
  · cases h

end Value

/-- A cell that is an instant is neither absent nor text. -/
lemma Timestamp.not_null_of_ofCell? {v : Value} {unit : Option Precision} {nanos : Int}
    (h : ofCell? v unit = some nanos) : v.isNull = false ∧ v.isText = false := by
  cases v with
  | null | text => nomatch h
  | _ => exact ⟨rfl, rfl⟩

namespace Coercion

/-! ## What a cell stands for -/

/-- What a cell is as a value of its column: absent and unknown values are themselves, numbers lose
their fraction or are rounded, texts may come interned, and instants are counted in nanoseconds. -/
inductive Narrows (type : Option ColumnType) (unit : Option Precision) : Value → Value → Prop
  /-- An absent value. -/
  | absent : Narrows type unit .null .null
  /-- A value of a column without a known type. -/
  | untyped (htype : type.bind ColumnType.kind? = none) (v : Value) : Narrows type unit v v
  /-- A finite number without its fraction. -/
  | whole (htype : type = some (.field (some .integer)) ∨ type = some (.field (some .uinteger)))
      {v : Value} (hv : v.isNumber = true) {r : ℚ} (hr : v.number? = some (.rational r)) :
      Narrows type unit v (.int (towardZero r))
  /-- The double nearest to a number. -/
  | double (htype : type = some (.field (some .float))) {v : Value} (hv : v.isNumber = true)
      {x : Floating} (hx : v.nearestDouble? = some (.ok x)) : Narrows type unit v (.float x)
  /-- A text. -/
  | text (htype : type.bind ColumnType.kind? = some .string) (s : String) :
      Narrows type unit (.text s) (.text s)
  /-- A text that came interned, and may be missing. -/
  | interned (htype : type.bind ColumnType.kind? = some .string) (large : Bool)
      (s : Option String) : Narrows type unit (.interned large s) (.ofText? s)
  /-- A truth value of any width. -/
  | truth (htype : type = some (.field (some .boolean))) {v : Value} (hv : v.isBoolean = true) :
      Narrows type unit v (.bool v.truthy)
  /-- An integer in the unit of the column. -/
  | count (htype : type = some .timestamp) {v : Value} {n : Int} (hn : v.integer? = some n) :
      Narrows type unit v (.int (n * (unit.getD Timestamp.defaultCellUnit).scale))
  /-- A date with a clock reading. -/
  | datetime (htype : type = some .timestamp) (t : DateTime) :
      Narrows type unit (.datetime t) (.int t.toNanos)
  /-- A count of ticks. -/
  | ticks (htype : type = some .timestamp) (t : Ticks) :
      Narrows type unit (.ticks t) (.int t.toNanos)

/-- The cells that stop with a fault: in a column of doubles the integers without a nearest double,
and the signaling not-a-number. -/
inductive Refuses : Option ColumnType → Value → Fault → Prop
  | large {v : Value} {n : Int} (hn : v.integer? = some n)
      (hlarge : 2 ^ 1024 - 2 ^ 970 ≤ n.natAbs) :
      Refuses (some (.field (some .float))) v (.range .doubleOfInteger)
  | signaling (negative : Bool) (payload : Option Nat) :
      Refuses (some (.field (some .float))) (.decimal (.nan negative true payload))
        (.invalid .doubleOfSignalingNan)

namespace Refuses

variable {type : Option ColumnType} {v : Value} {fault : Fault}

/-- Only a column of doubles refuses a cell. -/
lemma type_eq (h : Refuses type v fault) : type = some (.field (some .float)) := by
  cases h <;> rfl

/-- A refused cell is a number. -/
lemma isNumber (h : Refuses type v fault) : v.isNumber = true := by
  cases h with
  | large hn => exact Value.isNumber_of_integer? hn
  | signaling => rfl

/-- A refused cell has no nearest double. -/
lemma nearestDouble?_eq (h : Refuses type v fault) :
    v.nearestDouble? = some (.error fault) := by
  cases h with
  | large hn hlarge =>
    have hfault := integerToDouble_eq_error_iff.mpr ⟨hlarge, rfl⟩
    rcases Value.integer?_eq_some_iff.mp hn with rfl | ⟨_, _, rfl⟩
    · exact congrArg some hfault
    · exact congrArg some hfault
  | signaling => rfl

/-- A number without a nearest double is refused. -/
lemma of_nearestDouble? (hv : v.isNumber = true)
    (h : v.nearestDouble? = some (.error fault)) :
    Refuses (some (.field (some .float))) v fault := by
  have hinteger : ∀ {n : Int}, v.integer? = some n →
      some (integerToDouble n) = some (.error fault) →
        Refuses (some (.field (some .float))) v fault := by
    intro n hn hfault
    obtain ⟨hlarge, rfl⟩ := integerToDouble_eq_error_iff.mp (Option.some.inj hfault)
    exact .large hn hlarge
  unfold Value.isNumber at hv
  split at hv
  · exact hinteger rfl h
  · nomatch h
  · next d =>
    rcases d with _ | _ | ⟨negative, _ | _, payload⟩
    · nomatch h
    · nomatch h
    · nomatch h
    · obtain rfl : Fault.invalid .doubleOfSignalingNan = fault :=
        Except.error.inj (Option.some.inj h)
      exact .signaling negative payload
  · exact hinteger rfl h
  · nomatch h
  · nomatch hv

end Refuses

/-! ## What becomes of a cell -/

section Roles

variable {type : Option ColumnType} (name : String) {v : Value} (unit : Option Precision)

/-- A cell of a column without a known type is passed on. -/
lemma coerce_untyped (htype : type.bind ColumnType.kind? = none) (v : Value) :
    coerce type name v unit = (.ok v, []) := by
  unfold coerce
  split
  · rfl
  · rcases type with _ | (_ | ⟨⟨⟩⟩) | _ | _ | _
    case none | some.field.none => rfl
    all_goals nomatch htype

variable (hnull : v.isNull = false)

include hnull

/-- A cell of a column of integers. -/
lemma coerce_integer (htype : type = some (.field (some .integer)) ∨
    type = some (.field (some .uinteger))) : coerce type name v unit = toIntegerField name v := by
  unfold coerce
  rw [hnull, if_neg Bool.false_ne_true]
  rcases htype with rfl | rfl
  · rfl
  · rfl

/-- A cell of a column of doubles. -/
lemma coerce_float :
    coerce (some (.field (some .float))) name v unit = toFloatField name v := by
  unfold coerce
  rw [hnull, if_neg Bool.false_ne_true]

/-- A cell of a column of texts. -/
lemma coerce_string (htype : type.bind ColumnType.kind? = some .string) :
    coerce type name v unit = toTextCell name v := by
  unfold coerce
  rw [hnull, if_neg Bool.false_ne_true]
  rcases type with _ | (_ | ⟨⟨⟩⟩) | _ | _ | _
  case some.field.some.string | some.tag | some.measurement => rfl
  all_goals nomatch htype

/-- A cell of a column of truth values. -/
lemma coerce_boolean :
    coerce (some (.field (some .boolean))) name v unit = toBooleanField name v := by
  unfold coerce
  rw [hnull, if_neg Bool.false_ne_true]

/-- A cell of a column of instants. -/
lemma coerce_timestamp : coerce (some .timestamp) name v unit = toTimestamp name v unit := by
  unfold coerce
  rw [hnull, if_neg Bool.false_ne_true]

end Roles

section Outcomes

variable {type : Option ColumnType} {unit : Option Precision} {v w : Value} {fault : Fault}

/-- A cell of a column of instants that is one comes out in nanoseconds. -/
lemma coerce_instant {nanos : Int} (h : Timestamp.ofCell? v unit = some nanos) {name : String} :
    coerce (some .timestamp) name v unit = (.ok (.int nanos), []) := by
  rw [coerce_timestamp name unit (Timestamp.not_null_of_ofCell? h).1, toTimestamp, h]

/-- **A cell that stands for a value of its column becomes that value**, without a notice. -/
theorem coerce_of_narrows (h : Narrows type unit v w) (name : String) :
    coerce type name v unit = (.ok w, []) := by
  cases h with
  | absent => rfl
  | untyped htype => exact coerce_untyped name unit htype v
  | @whole htype _ hv r hr =>
    have hwhole : v.wholePart? = some (.ok (towardZero r)) :=
      (Value.wholePart?_eq_ok_iff hv).mpr ⟨r, hr, rfl⟩
    rw [coerce_integer name unit (Value.isNull_eq_false_of_isNumber hv) htype, toIntegerField,
      if_pos hv, hwhole]
  | double htype hv hx =>
    rw [htype, coerce_float name unit (Value.isNull_eq_false_of_isNumber hv), toFloatField,
      if_pos hv, hx]
    rfl
  | text htype s =>
    rw [coerce_string name unit rfl htype]
    exact congrArg (Except.ok ·, []) (Value.unwrapText_text s)
  | interned htype large s => exact coerce_string name unit rfl htype
  | truth htype hv =>
    rw [htype, coerce_boolean name unit (Value.isNull_eq_false_of_isBoolean hv)]
    exact if_pos hv
  | count htype hn =>
    rw [htype]
    rcases Value.integer?_eq_some_iff.mp hn with rfl | ⟨_, _, rfl⟩
    · rfl
    · rfl
  | datetime htype t =>
    rw [htype]
    rfl
  | ticks htype t =>
    rw [htype]
    rfl

/-- **A refused cell stops with its fault**, without a notice. -/
theorem coerce_of_refuses (h : Refuses type v fault) (name : String)
    (unit : Option Precision) : coerce type name v unit = (.error fault, []) := by
  rw [h.type_eq, coerce_float name unit (Value.isNull_eq_false_of_isNumber h.isNumber),
    toFloatField, if_pos h.isNumber, h.nearestDouble?_eq]
  rfl

/-- A cell of a column of integers is narrowed unless it is no number or not finite. -/
lemma integer_cases (htype : type = some (.field (some .integer)) ∨
    type = some (.field (some .uinteger))) (name : String) (v : Value) :
    (∃ w, Narrows type unit v w) ∨ toIntegerField name v = mismatch name v "an integer" := by
  by_cases hv : v.isNumber = true
  · by_cases hr : ∃ r, v.number? = some (.rational r)
    · obtain ⟨r, hr⟩ := hr
      exact .inl ⟨_, .whole htype hv hr⟩
    · right
      rw [toIntegerField, if_pos hv]
      split
      · next n hn =>
        obtain ⟨r, hr', -⟩ := (Value.wholePart?_eq_ok_iff hv).mp hn
        exact absurd ⟨r, hr'⟩ hr
      · rfl
  · right
    rw [toIntegerField, if_neg hv]

/-- A cell of a column of doubles is narrowed unless it is refused or no number. -/
lemma float_cases (name : String) (v : Value) :
    (∃ w, Narrows (some (.field (some .float))) unit v w) ∨
      (∃ fault, Refuses (some (.field (some .float))) v fault) ∨
      toFloatField name v = mismatch name v "a float" := by
  by_cases hv : v.isNumber = true
  · rcases hx : v.nearestDouble? with _ | fault | x
    · refine .inr (.inr ?_)
      rw [toFloatField, if_pos hv, hx]
    · exact .inr (.inl ⟨fault, .of_nearestDouble? hv hx⟩)
    · exact .inl ⟨_, .double rfl hv hx⟩
  · refine .inr (.inr ?_)
    rw [toFloatField, if_neg hv]

/-- A cell of a column of texts is narrowed unless it is none. -/
lemma string_cases (htype : type.bind ColumnType.kind? = some .string) (name : String)
    (v : Value) :
    (∃ w, Narrows type unit v w) ∨ toTextCell name v = mismatch name v "a string" := by
  cases v with
  | text s => exact .inl ⟨_, .text htype s⟩
  | interned large s => exact .inl ⟨_, .interned htype large s⟩
  | _ => exact .inr rfl

/-- A cell of a column of instants is narrowed if it is a timestamp. -/
lemma timestamp_cases (name : String) (v : Value) :
    (∃ w, Narrows (some .timestamp) unit v w) ∨
      toTimestamp name v unit = mismatch name v "a timestamp" := by
  unfold toTimestamp Timestamp.ofCell?
  split
  · next nanos hnanos =>
    split at hnanos
    · exact .inl ⟨_, .count rfl rfl⟩
    · exact .inl ⟨_, .count rfl rfl⟩
    · exact .inl ⟨_, .datetime rfl _⟩
    · exact .inl ⟨_, .ticks rfl _⟩
    · nomatch hnanos
  · exact .inr rfl

/-- What a cell is: a value of its column, a refused cell, or one that is passed on with a
warning. -/
lemma narrows_or_refuses_or_mismatch (type : Option ColumnType) (name : String) (v : Value)
    (unit : Option Precision) :
    (∃ w, Narrows type unit v w) ∨ (∃ fault, Refuses type v fault) ∨
      ∃ role, type = some role ∧ coerce type name v unit = mismatch name v role.expected := by
  by_cases hnull : v.isNull = false
  · rcases type with _ | (_ | ⟨⟨⟩⟩) | _ | _ | _
    case none | some.field.none => exact .inl ⟨v, .untyped rfl v⟩
    case some.field.some.integer =>
      refine (integer_cases (.inl rfl) name v).imp_right fun h => .inr ⟨_, rfl, ?_⟩
      rwa [coerce_integer name unit hnull (.inl rfl)]
    case some.field.some.uinteger =>
      refine (integer_cases (.inr rfl) name v).imp_right fun h => .inr ⟨_, rfl, ?_⟩
      rwa [coerce_integer name unit hnull (.inr rfl)]
    case some.field.some.float =>
      refine (float_cases name v).imp_right (.imp_right fun h => ⟨_, rfl, ?_⟩)
      rwa [coerce_float name unit hnull]
    case some.field.some.boolean =>
      by_cases hv : v.isBoolean = true
      · exact .inl ⟨_, .truth rfl hv⟩
      · refine .inr (.inr ⟨_, rfl, ?_⟩)
        rw [coerce_boolean name unit hnull, toBooleanField, if_neg hv]
        rfl
    case some.timestamp =>
      refine (timestamp_cases name v).imp_right fun h => .inr ⟨_, rfl, ?_⟩
      rwa [coerce_timestamp name unit hnull]
    all_goals
      refine (string_cases rfl name v).imp_right fun h => .inr ⟨_, rfl, ?_⟩
      rwa [coerce_string name unit hnull rfl]
  · obtain rfl := Value.isNull_iff.mp (eq_true_of_ne_false hnull)
    exact .inl ⟨_, .absent⟩

/-- Narrowing fails for a refused cell, and for no other. -/
lemma coerce_eq_error_iff {name : String} :
    (coerce type name v unit).1 = .error fault ↔ Refuses type v fault := by
  refine ⟨fun h => ?_, fun h => congrArg Prod.fst (coerce_of_refuses h name unit)⟩
  rcases narrows_or_refuses_or_mismatch type name v unit with
    ⟨w, hw⟩ | ⟨fault', hrefused⟩ | ⟨role, -, hmismatch⟩
  · rw [coerce_of_narrows hw] at h
    nomatch h
  · rw [coerce_of_refuses hrefused] at h
    obtain rfl : fault' = fault := Except.error.inj h
    exact hrefused
  · rw [hmismatch] at h
    nomatch h

/-- **A cell that stands for no value of its column stays as it is**, with a warning, unless it is
refused. -/
theorem coerce_of_neither (hnarrows : ∀ w, ¬ Narrows type unit v w)
    (hrefused : ∀ fault, ¬ Refuses type v fault) (name : String) :
    ∃ role, type = some role ∧ coerce type name v unit = mismatch name v role.expected := by
  rcases narrows_or_refuses_or_mismatch type name v unit with
    ⟨w, hw⟩ | ⟨fault, hfault⟩ | hmismatch
  · exact absurd hw (hnarrows w)
  · exact absurd hfault (hrefused fault)
  · exact hmismatch

/-- **Narrowing fails for the refused cells only.** A cell is refused, or it becomes the value of
its column that it stands for, without a notice; or it stands for none and stays as it is, with
exactly one warning. The refused cells are those of a column of doubles that hold an integer without
a nearest double, or the signaling not-a-number. -/
theorem coerce_returns (type : Option ColumnType) (name : String) (v : Value)
    (unit : Option Precision) :
    ((∃ fault, Refuses type v fault ∧ coerce type name v unit = (.error fault, [])) ∨
      (∃ w, Narrows type unit v w ∧ coerce type name v unit = (.ok w, [])) ∨
      ((∀ w, ¬ Narrows type unit v w) ∧ ∃ role, type = some role ∧
        coerce type name v unit = (.ok v, [.warn ("Value of " ++ name ++ " is not " ++
          role.expected ++ ": " ++ v.display)]))) ∧
    ∀ fault, (coerce type name v unit).1 = .error fault ↔ Refuses type v fault := by
  refine ⟨?_, fun fault => coerce_eq_error_iff⟩
  by_cases hrefused : ∃ fault, Refuses type v fault
  · obtain ⟨fault, hfault⟩ := hrefused
    exact .inl ⟨fault, hfault, coerce_of_refuses hfault name unit⟩
  by_cases hnarrows : ∃ w, Narrows type unit v w
  · obtain ⟨w, hw⟩ := hnarrows
    exact .inr (.inl ⟨w, hw, coerce_of_narrows hw name⟩)
  · have hnone : ∀ w, ¬ Narrows type unit v w := fun w hw => hnarrows ⟨w, hw⟩
    have hmismatch := coerce_of_neither hnone (fun fault hfault => hrefused ⟨fault, hfault⟩) name
    exact .inr (.inr ⟨hnone, hmismatch⟩)

/-- A column of doubles is stopped by the integer `10 ^ 400`, and by the signaling not-a-number. -/
theorem not_returned_hugeInteger :
    (coerce (some (.field (some .float))) "col" (.int (10 ^ 400)) none).1 =
        .error (.range .doubleOfInteger) ∧
      (coerce (some (.field (some .float))) "col" (.decimal (.nan false true none)) none).1 =
        .error (.invalid .doubleOfSignalingNan) := by
  have hlarge : 2 ^ 1024 - 2 ^ 970 ≤ (10 ^ 400 : Int).natAbs := by decide +kernel
  exact ⟨congrArg Prod.fst (coerce_of_refuses (.large rfl hlarge) "col" none),
    congrArg Prod.fst (coerce_of_refuses (.signaling false none) "col" none)⟩

/-! ## Results -/

namespace Narrows

/-- A value is of the kind of its column, or untouched, or a text that is missing. -/
lemma holds (h : Narrows type unit v w) :
    (∃ kind, type.bind ColumnType.kind? = some kind ∧ kind.Holds w) ∨
      (w = v ∧ (v = .null ∨ type.bind ColumnType.kind? = none)) ∨
      (w = .null ∧ type.bind ColumnType.kind? = some .string ∧
        ∃ large, v = .interned large none) := by
  cases h with
  | absent => exact .inr (.inl ⟨rfl, .inl rfl⟩)
  | untyped htype => exact .inr (.inl ⟨rfl, .inr htype⟩)
  | whole htype => exact .inl ⟨.integer, by rcases htype with rfl | rfl <;> rfl, .integer _⟩
  | double htype => exact .inl ⟨.float, by rw [htype]; rfl, .float _⟩
  | text htype s => exact .inl ⟨.string, htype, .string s⟩
  | interned htype large s =>
    rcases s with _ | s
    · exact .inr (.inr ⟨rfl, htype, large, rfl⟩)
    · exact .inl ⟨.string, htype, .string s⟩
  | truth htype => exact .inl ⟨.boolean, by rw [htype]; rfl, .boolean _⟩
  | count htype => exact .inl ⟨.integer, by rw [htype]; rfl, .integer _⟩
  | datetime htype => exact .inl ⟨.integer, by rw [htype]; rfl, .integer _⟩
  | ticks htype => exact .inl ⟨.integer, by rw [htype]; rfl, .integer _⟩

/-- A truth value stays one. -/
lemma isBoolean (h : Narrows type unit v w) (hv : v.isBoolean = true) : w.isBoolean = true := by
  cases h with
  | untyped => exact hv
  | truth => rfl
  | whole _ hnumber | double _ hnumber =>
    rw [Value.isNumber_eq_false_of_isBoolean hv] at hnumber
    nomatch hnumber
  | count _ hn =>
    have hnumber := Value.isNumber_of_integer? hn
    rw [Value.isNumber_eq_false_of_isBoolean hv] at hnumber
    nomatch hnumber
  | _ => nomatch hv

/-- A number stays one. -/
lemma isNumber (h : Narrows type unit v w) (hv : v.isNumber = true) : w.isNumber = true := by
  cases h with
  | untyped => exact hv
  | truth _ hboolean =>
    rw [Value.isNumber_eq_false_of_isBoolean hboolean] at hv
    nomatch hv
  | whole | double | count => rfl
  | _ => nomatch hv

/-- What a cell of no instants stands for stands for itself. -/
lemma again (h : Narrows type unit v w) (htype : type ≠ some .timestamp)
    (unit' : Option Precision) : Narrows type unit' w w := by
  cases h with
  | absent => exact .absent
  | untyped hnone => exact .untyped hnone _
  | @whole hinteger _ _ r _ =>
    have hself : Narrows type unit' (.int (towardZero r))
        (.int (towardZero (towardZero r : Int))) := .whole hinteger rfl rfl
    rwa [towardZero_intCast] at hself
  | double hfloat => exact .double hfloat rfl rfl
  | text hstring s => exact .text hstring s
  | interned hstring _ s =>
    rcases s with _ | s
    · exact .absent
    · exact .text hstring s
  | @truth hboolean v _ => exact .truth (v := .bool v.truthy) hboolean rfl
  | count hinstant | datetime hinstant | ticks hinstant => exact absurd hinstant htype

end Narrows

/-- The unit matters for instants only. -/
lemma coerce_unit (htype : type ≠ some .timestamp) (name : String) (v : Value)
    (unit unit' : Option Precision) : coerce type name v unit = coerce type name v unit' := by
  rcases type with _ | (_ | ⟨⟨⟩⟩) | _ | _ | _
  case some.timestamp => exact absurd rfl htype
  all_goals rfl

/-- **A result is of the kind of its column, or untouched.** Where a cell is narrowed to something,
that is a plain value of the kind of the column and there is no notice; or it is the cell, with
exactly one warning; or it is the cell, absent or of a column without a known type, without a
notice; or nothing for a text that is missing. Truth values stay truth values, and numbers stay
numbers. Unless the column is one of instants, narrowing the result again changes nothing.

**Proof sketch.** What a cell stands for is of the kind of the column (`Narrows.holds`) and stands
for itself (`Narrows.again`). Any other cell is passed on, and passed on again. -/
theorem coerce_canonical {name : String} {notices : List Notice}
    (h : coerce type name v unit = (.ok w, notices)) :
    ((∃ kind, type.bind ColumnType.kind? = some kind ∧ kind.Holds w ∧ Narrows type unit v w ∧
        notices = []) ∨
      (w = v ∧ (∀ w', ¬ Narrows type unit v w') ∧ ∃ role, type = some role ∧
        notices = [.warn ("Value of " ++ name ++ " is not " ++ role.expected ++ ": " ++
          v.display)]) ∨
      (w = v ∧ notices = [] ∧ (v = .null ∨ type.bind ColumnType.kind? = none)) ∨
      (w = .null ∧ notices = [] ∧ type.bind ColumnType.kind? = some .string ∧
        ∃ large, v = .interned large none)) ∧
    (v.isBoolean = true → w.isBoolean = true ∧ w.isNumber = false) ∧
    (v.isNumber = true → w.isNumber = true ∧ w.isBoolean = false ∧ w.isText = false) ∧
    (type ≠ some .timestamp → ∀ unit', coerce type name w unit' = (.ok w, notices)) := by
  have hnumber : w.isNumber = true → w.isNumber = true ∧ w.isBoolean = false ∧ w.isText = false :=
    fun hw => ⟨hw, Value.not_isBoolean_not_isText_of_isNumber hw⟩
  by_cases hnarrows : ∃ w', Narrows type unit v w'
  · obtain ⟨w', hw⟩ := hnarrows
    obtain ⟨rfl, rfl⟩ : w' = w ∧ [] = notices := by
      simpa [coerce_of_narrows hw name] using h
    refine ⟨?_, fun hv => ?_, fun hv => hnumber (hw.isNumber hv), fun htype unit' => ?_⟩
    · rcases hw.holds with ⟨kind, hkind, hholds⟩ | ⟨rfl, hpassed⟩ | ⟨rfl, hstring, hmissing⟩
      · exact .inl ⟨kind, hkind, hholds, hw, rfl⟩
      · exact .inr (.inr (.inl ⟨rfl, rfl, hpassed⟩))
      · exact .inr (.inr (.inr ⟨rfl, rfl, hstring, hmissing⟩))
    · exact ⟨hw.isBoolean hv, Value.isNumber_eq_false_of_isBoolean (hw.isBoolean hv)⟩
    · exact coerce_of_narrows (hw.again htype unit') name
  · have hnone : ∀ w', ¬ Narrows type unit v w' := fun w' hw => hnarrows ⟨w', hw⟩
    have hrefused : ∀ fault, ¬ Refuses type v fault := fun fault hfault => by
      rw [coerce_of_refuses hfault] at h
      nomatch h
    obtain ⟨role, hrole, hmismatch⟩ := coerce_of_neither hnone hrefused name
    obtain ⟨rfl, rfl⟩ : v = w ∧ [_] = notices := by
      simpa [hmismatch, mismatch] using h
    refine ⟨.inr (.inl ⟨rfl, hnone, role, hrole, rfl⟩), fun hv => ?_, hnumber, ?_⟩
    · exact ⟨hv, Value.isNumber_eq_false_of_isBoolean hv⟩
    · intro htype unit'
      rw [coerce_unit htype name v unit' unit, h]

/-- A tag that came interned is a plain text from then on. -/
theorem coerce_canonical_interned :
    coerce (some .tag) "room" (.interned false (some "A")) none = (.ok (.text "A"), []) ∧
      coerce (some .tag) "room" (.text "A") (some .nano) = (.ok (.text "A"), []) := by
  have hresult : coerce (some .tag) "room" (.interned false (some "A")) none =
      (.ok (.text "A"), []) := rfl
  exact ⟨hresult, (coerce_canonical hresult).2.2.2 nofun (some .nano)⟩

end Outcomes

end Coercion

end SeriesClient
