import SeriesClient.Proofs.LineProtocol.Spelling

set_option relaxedAutoImplicit false
set_option autoImplicit false

/-!
# Lines that read back

Fields, tags and timestamps put together to lines: the reader takes in a line that consists of
them as a record of them.

## Main definitions

* `SeriesClient.FieldReading.Shows` — what a field value is read as.
* `SeriesClient.LineReader.IsValue`, `SeriesClient.LineReader.IsField` — a text that is read as
  a field value, and as a field.
* `SeriesClient.LineReader.NameDone` — a measurement or tag value has been read.
* `SeriesClient.LineReader.IsLine` — a text that is read as a line with a record.

## Main results

* `SeriesClient.LineReader.exists_isValue` — every value of a kind is written as a text that is
  read as what the value is.
* `SeriesClient.LineReader.isLine_of_isField` — a line is read as its record.
* `SeriesClient.LineReader.read_intercalate` — lines are read as their records.

## Design

What follows a field decides whether the line goes on, so a field is read together with the
character behind it. A measurement and a tag value are followed by the same two characters, a
comma or a space, and `NameDone` says where these lead.
-/

namespace SeriesClient

/-- What a field value is read as: its kind with the value itself, or, for a floating-point
number, the text that it is written as. -/
inductive FieldReading.Shows : FieldReading → Value → Prop where
  | boolean (b : Bool) : Shows (.boolean b) (.bool b)
  | sizedBoolean (b : Bool) : Shows (.boolean b) (.sized (.bool b))
  | integer (n : Int) : Shows (.integer n) (.int n)
  | sizedInteger (signed : Bool) (bits : Nat) (n : Int) :
    Shows (.integer n) (.sized (.integer signed bits n))
  | string (s : String) : Shows (.string s) (.text s)
  | float {v : Value} {cs : List Char} (hkind : FieldKind.infer? v = some .float)
    (hwrite : FieldKind.writeFloat v = .ok cs) : Shows (.float (String.ofList cs)) v

/-! ## Decimals -/

/-- A decimal is rounded to a double, unless it signals. -/
lemma DecimalNumber.toDouble_cases (d : DecimalNumber) :
    d.toDouble = .ok d.toFloating ∨ ∃ negative payload, d = .nan negative true payload := by
  unfold toDouble
  split
  · next negative payload => exact .inr ⟨negative, payload, rfl⟩
  · exact .inl rfl

/-- A decimal that does not signal is written as the double that it is rounded to. -/
lemma FieldKind.writeFloat_decimal {d : DecimalNumber} (h : d.toDouble = .ok d.toFloating) :
    writeFloat (.decimal d) = .ok (d.toFloating.positional .double) := by
  simp only [writeFloat, h]
  rfl

namespace LineReader

/-- The reader before the first character of a name or value. -/
def State.fresh (records : List LineRecord) (current : LineRecord) (place : Place) : State :=
  ⟨records, current, place, [], false⟩

variable {records : List LineRecord} {current : LineRecord}

/-! ## Field values -/

/-- A text that is read as a field value, together with the character that ends it. -/
def IsValue (cs : List Char) (r : FieldReading) : Prop :=
  ∀ (records : List LineRecord) (current : LineRecord) (key : String) (d : Char),
    d ∈ [',', ' ', '\n'] →
      (cs ++ [d]).foldlM step (.fresh records current (.fieldValue key)) =
        afterField ((State.fresh records current .fieldEnd).addField key r) d

/-- A text without quotes is read as the value that it spells. -/
lemma IsToken.isValue {cs : List Char} {r : FieldReading} (h : IsToken cs r) :
    IsValue cs r := by
  intro records current key d hd
  have hstop : ∀ c ∈ cs, c ∉ [',', ' ', '\n'] ∧ c ≠ '"' := fun c hc => by
    have hc := h.no_stop c hc
    simp only [List.mem_cons, List.not_mem_nil, or_false, not_or] at hc ⊢
    tauto
  have htoken : cs.foldlM step (.fresh records current (.fieldValue key)) =
      some ((State.fresh records current (.fieldValue key)).pushAll cs) := by
    refine foldlM_plain rfl fun c hc t hp _ => ?_
    have hplace : t.place = .fieldValue key := hp
    simp only [step, hplace, valueChar, (hstop c hc).1, (hstop c hc).2, false_and, if_false]
  have hquote : d ≠ '"' := by
    rintro rfl
    exact absurd hd (by decide)
  rw [List.foldlM_append, htoken]
  simp [step, State.pushAll, State.fresh, valueChar, hquote, hd, h.ofToken?, State.addField,
    State.goTo]

/-- An escaped text between quotes is read as the text. -/
lemma isValue_quoted (s : String) : IsValue (LineText.quoted s.toList) (.string s) := by
  intro records current key d _
  have hopen : step (.fresh records current (.fieldValue key)) '"' =
      some (.fresh records current (.quoted key)) := rfl
  have hbody := foldlM_quoted (s := State.fresh records current (.quoted key)) rfl rfl s.toList
  have hclose : step ((State.fresh records current (.quoted key)).pushAll s.toList) '"' =
      some ((State.fresh records current .fieldEnd).addField key (.string s)) := by
    simp [step, State.pushAll, State.fresh, quotedChar, State.addField, State.goTo]
  have hend : step ((State.fresh records current .fieldEnd).addField key (.string s)) d =
      afterField ((State.fresh records current .fieldEnd).addField key (.string s)) d := rfl
  simp only [LineText.quoted, List.cons_append, List.append_assoc, List.foldlM_cons, hopen,
    Option.bind_eq_bind, Option.bind_some, List.foldlM_append, hbody, hclose, hend, List.nil_append,
    List.foldlM_nil, Option.pure_def, Option.bind_fun_some]

/-- **Every value of a kind is written**, unless it is a decimal that signals, **and what is
written is read as what the value is**. -/
theorem exists_isValue {v : Value} {kind : FieldKind} (hkind : FieldKind.infer? v = some kind)
    (hnan : ∀ negative payload, v ≠ .decimal (.nan negative true payload)) :
    ∃ cs r, FieldKind.write (some kind) v = .ok cs ∧ r.Shows v ∧ r.kind = kind ∧
      IsValue cs r := by
  have hfloat : ∀ {f : Format} {x : Floating}, FieldKind.infer? v = some .float →
      FieldKind.writeFloat v = .ok (x.positional f) →
      ∃ cs r, FieldKind.write (some .float) v = .ok cs ∧ r.Shows v ∧ r.kind = .float ∧
        IsValue cs r := fun hk hw =>
    ⟨_, _, hw, .float hk hw, rfl, (isToken_positional _ _).isValue⟩
  cases v with
  | bool b => cases hkind; exact ⟨_, _, rfl, .boolean b, rfl, (isToken_boolean b).isValue⟩
  | int n => cases hkind; exact ⟨_, _, rfl, .integer n, rfl, (isToken_integer n).isValue⟩
  | float x => cases hkind; exact hfloat rfl rfl
  | text s => cases hkind; exact ⟨_, _, rfl, .string s, rfl, isValue_quoted s⟩
  | decimal d =>
    cases hkind
    rcases d.toDouble_cases with hd | ⟨negative, payload, rfl⟩
    · exact hfloat rfl (FieldKind.writeFloat_decimal hd)
    · exact absurd rfl (hnan negative payload)
  | sized n =>
    cases n with
    | integer signed bits n =>
      cases hkind
      exact ⟨_, _, rfl, .sizedInteger signed bits n, rfl, (isToken_integer n).isValue⟩
    | floating width x => cases hkind; exact hfloat rfl rfl
    | bool b => cases hkind; exact ⟨_, _, rfl, .sizedBoolean b, rfl, (isToken_boolean b).isValue⟩
  | _ => cases hkind

/-! ## Fields -/

/-- A text that is read as a field, together with the character that ends it. -/
def IsField (cs : List Char) (field : String × FieldReading) : Prop :=
  ∀ (records : List LineRecord) (current : LineRecord) (d : Char), d ∈ [',', ' ', '\n'] →
    (cs ++ [d]).foldlM step (.fresh records current .fieldKey) =
      afterField ((State.fresh records current .fieldEnd).addField field.1 field.2) d

/-- A key without a backslash and a value, with an equals sign between them, are a field. -/
lemma IsValue.isField {name : String} {cs : List Char} {r : FieldReading} (h : IsValue cs r)
    (hb : '\\' ∉ name.toList) :
    IsField (LineText.key name.toList ++ '=' :: cs) (name, r) := by
  intro records current d hd
  have hkey := foldlM_key (s := State.fresh records current .fieldKey) rfl rfl hb
  have hequals : step ((State.fresh records current .fieldKey).pushAll name.toList) '=' =
      some (.fresh records current (.fieldValue name)) := by
    simp [step, State.pushAll, State.fresh, nameChar, plainChar, delimiters, nameEnd, State.goTo]
  rw [List.append_assoc, List.foldlM_append, hkey]
  simp only [Option.bind_eq_bind, Option.bind_some, List.cons_append, List.foldlM_cons, hequals]
  exact h records current name d hd

/-- **Fields with commas between them are read in order**, together with the character that ends
the last of them.

**Proof sketch.** Induction on the fields. The comma behind a field that is not the last leads to
the place where the next one begins. -/
lemma foldlM_fields {texts : List (List Char)} {fields : List (String × FieldReading)}
    (h : List.Forall₂ IsField texts fields) (hne : texts ≠ []) {d : Char}
    (hd : d ∈ [',', ' ', '\n']) (current : LineRecord) :
    (List.intercalate [','] texts ++ [d]).foldlM step (.fresh records current .fieldKey) =
      afterField (.fresh records { current with fields := current.fields ++ fields } .fieldEnd)
        d := by
  induction h generalizing current with
  | nil => exact absurd rfl hne
  | @cons cs field texts fields hfield hrest ih =>
    cases hrest with
    | nil =>
      have hlast := hfield records current d hd
      simpa [List.intercalate, State.addField, State.goTo, State.fresh] using hlast
    | @cons cs' field' texts fields hfield' hrest' =>
      have hcomma := hfield records current ',' (by simp)
      have hnext := ih (by simp)
        { current with fields := current.fields ++ [field] }
      have hsplit : List.intercalate [','] (cs :: cs' :: texts) ++ [d] =
          (cs ++ [',']) ++ (List.intercalate [','] (cs' :: texts) ++ [d]) := by
        simp [List.intercalate]
      rw [hsplit, List.foldlM_append, hcomma]
      simpa [afterField, State.addField, State.goTo, State.fresh] using hnext

/-! ## Tags -/

/-- A measurement or tag value has been read: a comma leads to the next tag and a space to the
fields. -/
structure NameDone (s : State) (records : List LineRecord) (current : LineRecord) : Prop where
  /-- Where a comma leads. -/
  comma : step s ',' = some (.fresh records current .tagKey)
  /-- Where a space leads. -/
  space : step s ' ' = some (.fresh records current .fieldKey)

/-- A measurement without a backslash is read. -/
lemma nameDone_measurement (records : List LineRecord) {name : String} (hb : '\\' ∉ name.toList) :
    ∃ s, (LineText.measurement name.toList).foldlM step (start records) = some s ∧
      NameDone s records { LineRecord.blank with measurement := name } := by
  refine ⟨_, foldlM_measurement (s := start records) rfl rfl hb, ?_, ?_⟩ <;>
    simp [step, start, State.pushAll, State.fresh, nameChar, plainChar, delimiters, nameEnd,
      State.goTo]

/-- A tag behind a measurement or another tag is read. -/
lemma nameDone_tag {s : State} (h : NameDone s records current) {key value : String}
    (hk : '\\' ∉ key.toList) (hv : '\\' ∉ value.toList) :
    ∃ t, (',' :: LineText.key key.toList ++ '=' :: LineText.key value.toList).foldlM step s =
        some t ∧
      NameDone t records { current with tags := current.tags ++ [(key, value)] } := by
  have hkey := foldlM_key (s := State.fresh records current .tagKey) rfl rfl hk
  have hequals : step ((State.fresh records current .tagKey).pushAll key.toList) '=' =
      some (.fresh records current (.tagValue key)) := by
    simp [step, State.pushAll, State.fresh, nameChar, plainChar, delimiters, nameEnd, State.goTo]
  have hvalue := foldlM_key (s := State.fresh records current (.tagValue key)) rfl rfl hv
  refine ⟨(State.fresh records current (.tagValue key)).pushAll value.toList, ?_, ?_, ?_⟩
  · simp only [List.cons_append, List.foldlM_cons, h.comma, Option.bind_eq_bind, Option.bind_some,
      List.foldlM_append, hkey, hequals, hvalue]
  all_goals
    simp [step, State.pushAll, State.fresh, nameChar, plainChar, delimiters, nameEnd, State.goTo]

/-! ## Lines -/

/-- The tag that a pair of names is written as. -/
def tagText (tag : String × String) : List Char :=
  ',' :: LineText.key tag.1.toList ++ '=' :: LineText.key tag.2.toList

/-- Tags one behind the other are read in order. -/
lemma nameDone_tags {s : State} (h : NameDone s records current) {tags : List (String × String)}
    (hb : ∀ tag ∈ tags, '\\' ∉ tag.1.toList ∧ '\\' ∉ tag.2.toList) :
    ∃ t, (tags.flatMap tagText).foldlM step s = some t ∧
      NameDone t records { current with tags := current.tags ++ tags } := by
  induction tags generalizing s current with
  | nil => exact ⟨s, rfl, by simpa using h⟩
  | cons tag tags ih =>
    obtain ⟨hk, hv⟩ := hb tag List.mem_cons_self
    obtain ⟨t, ht, hdone⟩ := nameDone_tag h hk hv
    obtain ⟨u, hu, hlast⟩ := ih hdone fun tag' htag' => hb tag' (List.mem_cons_of_mem _ htag')
    refine ⟨u, ?_, by simpa using hlast⟩
    rw [List.flatMap_cons, List.foldlM_append]
    simp only [tagText, ht, Option.bind_eq_bind, Option.bind_some, hu]

/-- The timestamp as it stands at the end of a line. -/
def timestampText : Option Int → List Char
  | none => []
  | some n => ' ' :: intDigits n

/-- The fields of a line are read together with the timestamp and the end of the line. -/
lemma foldlM_fields_timestamp (records : List LineRecord) (current : LineRecord)
    {texts : List (List Char)} {fields : List (String × FieldReading)}
    (h : List.Forall₂ IsField texts fields) (hne : texts ≠ []) (timestamp : Option Int) :
    (List.intercalate [','] texts ++ timestampText timestamp ++ ['\n']).foldlM step
        (.fresh records current .fieldKey) =
      some (start (records ++
        [{ current with fields := current.fields ++ fields, timestamp }])) := by
  cases timestamp with
  | none =>
    simp only [timestampText, List.append_nil]
    rw [foldlM_fields h hne (by simp)]
    rfl
  | some n =>
    have hdigits : (intDigits n).foldlM step
        (.fresh records { current with fields := current.fields ++ fields } .timestamp) =
        some ((State.fresh records { current with fields := current.fields ++ fields }
          .timestamp).pushAll (intDigits n)) := by
      refine foldlM_plain rfl fun c hc t hp _ => ?_
      have hplace : t.place = .timestamp := hp
      have hne : c ≠ '\n' := by
        rintro rfl
        exact absurd (isFloatChar_of_mem_intDigits hc) (by decide)
      simp [step, hplace, timestampChar, hne]
    have hsplit : List.intercalate [','] texts ++ timestampText (some n) ++ ['\n'] =
        (List.intercalate [','] texts ++ [' ']) ++ (intDigits n ++ ['\n']) := by
      simp [timestampText]
    rw [hsplit, List.foldlM_append, foldlM_fields h hne (by simp)]
    have hspace : afterField
        (.fresh records { current with fields := current.fields ++ fields } .fieldEnd) ' ' =
        some (.fresh records { current with fields := current.fields ++ fields } .timestamp) := rfl
    simp only [hspace, Option.bind_eq_bind, Option.bind_some, List.foldlM_append, hdigits]
    simp [step, State.pushAll, State.fresh, timestampChar, signed?_intDigits, State.endLine]

/-- A text that is read, together with the end of the line, as a line with a record. -/
def IsLine (cs : List Char) (r : LineRecord) : Prop :=
  cs ≠ [] ∧ ∀ records : List LineRecord,
    (cs ++ ['\n']).foldlM step (start records) = some (start (records ++ [r]))

/-- **A measurement, tags, fields and a timestamp are a line** with the record of them.

**Proof sketch.** Behind the measurement, and behind each tag, the name has been read
(`nameDone_measurement`, `nameDone_tags`); the space leads to the fields, which are read with
what follows them (`foldlM_fields_timestamp`). -/
theorem isLine_of_isField {measurement : String} {tags : List (String × String)}
    {texts : List (List Char)} {fields : List (String × FieldReading)} (timestamp : Option Int)
    (hm : '\\' ∉ measurement.toList)
    (htags : ∀ tag ∈ tags, '\\' ∉ tag.1.toList ∧ '\\' ∉ tag.2.toList)
    (hfields : List.Forall₂ IsField texts fields) (hne : texts ≠ []) :
    IsLine (LineText.measurement measurement.toList ++ tags.flatMap tagText ++ ' ' ::
      List.intercalate [','] texts ++ timestampText timestamp)
      ⟨measurement, tags, fields, timestamp⟩ := by
  refine ⟨by simp, fun records => ?_⟩
  obtain ⟨s, hs, hname⟩ := nameDone_measurement records hm
  obtain ⟨t, ht, hdone⟩ := nameDone_tags hname htags
  have hrest := foldlM_fields_timestamp records { LineRecord.blank with measurement, tags }
    hfields hne timestamp
  have hspace := hdone.space
  simp only [List.append_assoc, List.cons_append, List.foldlM_append, List.foldlM_cons, hs, ht,
    Option.bind_eq_bind, Option.bind_some, hspace, LineRecord.blank, List.nil_append] at hrest ⊢
  exact hrest

/-! ## Texts -/

/-- Lines one below the other lead to the records of all of them. -/
lemma foldlM_intercalate {lines : List (List Char)} {rs : List LineRecord}
    (h : List.Forall₂ IsLine lines rs) (hne : lines ≠ []) (records : List LineRecord) :
    (List.intercalate ['\n'] lines ++ ['\n']).foldlM step (start records) =
      some (start (records ++ rs)) := by
  induction h generalizing records with
  | nil => exact absurd rfl hne
  | @cons line r lines rs hline hrest ih =>
    cases hrest with
    | nil => simpa [List.intercalate] using hline.2 records
    | @cons line' r' lines rs hline' hrest' =>
      have hnext := ih (by simp) (records ++ [r])
      have hsplit : List.intercalate ['\n'] (line :: line' :: lines) ++ ['\n'] =
          (line ++ ['\n']) ++ (List.intercalate ['\n'] (line' :: lines) ++ ['\n']) := by
        simp [List.intercalate]
      rw [hsplit, List.foldlM_append, hline.2 records]
      simpa using hnext

/-- **Lines one below the other are read as their records**, in order. -/
theorem read_intercalate {lines : List (List Char)} {rs : List LineRecord}
    (h : List.Forall₂ IsLine lines rs) : read (List.intercalate ['\n'] lines) = some rs := by
  cases h with
  | nil => rfl
  | @cons line r lines rs hline hrest =>
    have hne : List.intercalate ['\n'] (line :: lines) ≠ [] := by
      obtain ⟨c, cs, hcs⟩ := List.exists_cons_of_ne_nil hline.1
      cases lines <;> simp [List.intercalate, hcs]
    refine read_eq_some hne ?_
    simpa using foldlM_intercalate (.cons hline hrest) (by simp) []

end LineReader

end SeriesClient
