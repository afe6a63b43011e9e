import SeriesClient.Http.Reason
import SeriesClient.Proofs.Text.Utf8

set_option relaxedAutoImplicit false
set_option autoImplicit false

/-!
# Where the reason of a failure comes from

The reason for a failed request has four sources, each of which counts only if those before it say
nothing: a message in the body, a header field, the body as it is, and the phrase of the status. So
there is a reason unless none of them says anything.

## Main definitions

* `SeriesClient.Http.IsMessage` — what a value of a document says.
* `SeriesClient.Http.BodySays`, `SeriesClient.Http.HeaderSays` — what a body and the header fields
  say.
* `SeriesClient.Http.IsReason` — the reason, by its source.

## Main results

* `SeriesClient.Http.bodyMessage?_eq_some_iff`, `SeriesClient.Http.headerMessage?_eq_some_iff` — the
  first of several names that says something counts.
* `SeriesClient.Http.isReason_reason`, `SeriesClient.Http.reason_eq_iff` — the reason has a source,
  and is determined by it.
* `SeriesClient.Http.reason_ranked` — the order of the sources, and when nothing is said.

## Design

What a source says is a relation between texts, not the function that finds it. That a source says
nothing is that no text is related to it.
-/

namespace SeriesClient.Http

/-! ## What the sources say -/

/-- A value of a document says something: it is neither absent nor an object nor an array, and its
text is not empty. -/
structure IsMessage (v : Value) (message : String) : Prop where
  /-- It is there. -/
  present : v ≠ .null
  /-- It is no object. -/
  no_object : ∀ entries, v ≠ .dict entries
  /-- It is no array. -/
  no_array : ∀ items, v ≠ .list items
  /-- It says its text. -/
  text_eq : message = v.toText
  /-- Something is said. -/
  ne_empty : message ≠ ""

/-- A value is taken for a message exactly if it says something. -/
lemma messageText?_eq_some_iff {v : Value} {message : String} :
    messageText? v = some message ↔ IsMessage v message := by
  have hempty : v.toText = "" ↔ v.plain = [] := by
    rw [Value.toText, String.ofList_eq_empty_iff]
  unfold messageText?
  split
  · exact ⟨nofun, fun h => absurd rfl h.present⟩
  · next entries => exact ⟨nofun, fun h => absurd rfl (h.no_object entries)⟩
  · next items => exact ⟨nofun, fun h => absurd rfl (h.no_array items)⟩
  · next hnull hobject harray =>
    split
    · next hplain =>
      rw [List.isEmpty_iff, ← hempty] at hplain
      exact ⟨nofun, fun h => absurd (h.text_eq.trans hplain) h.ne_empty⟩
    · next hplain =>
      rw [List.isEmpty_iff, ← hempty] at hplain
      constructor
      · intro h
        obtain rfl := Option.some.inj h
        exact ⟨hnull, hobject, harray, rfl, hplain⟩
      · intro h
        rw [h.text_eq]

/-- A text says itself unless it is empty. -/
lemma isMessage_text {s : String} (h : s ≠ "") : IsMessage (.text s) s :=
  ⟨nofun, nofun, nofun, (String.ofList_toList).symm, h⟩

/-- The first of several names that says something says this. -/
def FirstSays (tells : String → String → Prop) (names : List String) (message : String) : Prop :=
  ∃ before name after, names = before ++ name :: after ∧ tells name message ∧
    ∀ n ∈ before, ∀ m, ¬ tells n m

/-- A name says something in a document if it is the name of a message. -/
def DocumentSays (root : Value) (name message : String) : Prop :=
  ∃ v, Json.find? (.text name) root = some v ∧ IsMessage v message

/-- A body says what the first of the known names says in it, if it is a document. -/
def BodySays (text : List Char) (message : String) : Prop :=
  ∃ root, Json.parse? text = some root ∧ FirstSays (DocumentSays root) messageNames message

/-- The header fields say the value of the first known one that is not empty. -/
def HeaderSays (headers : Headers) (message : String) : Prop :=
  FirstSays (fun name v => headers.get? name = some v ∧ v ≠ "") messageHeaders message

/-- A search through names finds what the first of them says. -/
lemma findSome?_eq_some_iff_firstSays {find : String → Option String}
    {tells : String → String → Prop} (h : ∀ name m, find name = some m ↔ tells name m)
    {names : List String} {message : String} :
    names.findSome? find = some message ↔ FirstSays tells names message := by
  have hnone : ∀ n, find n = none ↔ ∀ m, ¬ tells n m := fun n => by
    simp only [Option.eq_none_iff_forall_ne_some, ne_eq, h]
  simp only [List.findSome?_eq_some_iff, FirstSays, h, hnone]

/-- **The message in a document** is what the first of the known names says. -/
theorem bodyMessage?_eq_some_iff {root : Value} {message : String} :
    bodyMessage? root = some message ↔ FirstSays (DocumentSays root) messageNames message := by
  refine findSome?_eq_some_iff_firstSays fun name m => ?_
  simp only [Option.bind_eq_some_iff, messageText?_eq_some_iff, DocumentSays]

/-- **The message in the header fields** is what the first of the known ones says. -/
theorem headerMessage?_eq_some_iff {headers : Headers} {message : String} :
    headerMessage? headers = some message ↔ HeaderSays headers message := by
  refine findSome?_eq_some_iff_firstSays fun name m => ?_
  simp [Option.filter_eq_some_iff]

/-- No message is found in the header fields exactly if they say nothing. -/
lemma headerMessage?_eq_none_iff {headers : Headers} :
    headerMessage? headers = none ↔ ∀ m, ¬ HeaderSays headers m := by
  simp only [Option.eq_none_iff_forall_ne_some, ne_eq, headerMessage?_eq_some_iff]

/-- The header fields say nothing if all known ones are empty or absent. -/
lemma not_headerSays_iff {headers : Headers} :
    (∀ m, ¬ HeaderSays headers m) ↔
      ∀ name ∈ messageHeaders, ∀ v, headers.get? name = some v → v = "" := by
  rw [← headerMessage?_eq_none_iff, headerMessage?, List.findSome?_eq_none_iff]
  simp [Option.filter_eq_none_iff]

/-- A body without bytes says nothing. -/
lemma not_bodySays_nil (m : String) : ¬ BodySays [] m := by
  rintro ⟨root, hroot, -⟩
  nomatch hroot

/-! ## The sources in order -/

/-- **The reason of a failure**, by its source: each one counts if those before it say nothing. -/
inductive IsReason (status : Int) (headers : Headers) (body : List UInt8) : String → Prop where
  /-- A message in the body. -/
  | message {m : String} (h : BodySays (Utf8.decodeLossy body) m) : IsReason status headers body m
  /-- A header field. -/
  | header {m : String} (hbody : ∀ m, ¬ BodySays (Utf8.decodeLossy body) m)
      (h : HeaderSays headers m) : IsReason status headers body m
  /-- The body as it is. -/
  | raw (hbody : ∀ m, ¬ BodySays (Utf8.decodeLossy body) m)
      (hheader : ∀ m, ¬ HeaderSays headers m) (hne : body ≠ []) :
      IsReason status headers body (String.ofList (Utf8.decodeLossy body))
  /-- The phrase of the status, or nothing if it has none. -/
  | phrase (hheader : ∀ m, ¬ HeaderSays headers m) (hempty : body = []) :
      IsReason status headers body ((phrase? status).getD "")

variable {status : Int} {headers : Headers} {body : List UInt8}

/-- A message in the body is the reason. -/
lemma reason_of_bodySays {m : String} (h : BodySays (Utf8.decodeLossy body) m) :
    (reason status headers body).1 = m := by
  obtain ⟨root, hroot, hfirst⟩ := h
  rw [← bodyMessage?_eq_some_iff] at hfirst
  unfold reason
  dsimp only
  split
  · next hempty =>
    rw [List.isEmpty_iff.mp hempty] at hroot
    nomatch hroot
  · simp only [hroot, hfirst, Option.getD_some]

/-- Without a message in the body, the reason is what is said elsewhere. -/
lemma reason_of_not_bodySays (h : ∀ m, ¬ BodySays (Utf8.decodeLossy body) m) :
    (reason status headers body).1 = plainReason status headers (Utf8.decodeLossy body) := by
  unfold reason
  dsimp only
  split
  · rfl
  · rcases hparse : Json.parse? (Utf8.decodeLossy body) with _ | root
    · rfl
    · have hnone : bodyMessage? root = none := by
        rw [Option.eq_none_iff_forall_ne_some]
        exact fun m hm => h m ⟨root, hparse, bodyMessage?_eq_some_iff.mp hm⟩
      simp only [hnone, Option.getD_none]

/-- **The reason has a source.** -/
theorem isReason_reason : IsReason status headers body (reason status headers body).1 := by
  by_cases hbody : ∃ m, BodySays (Utf8.decodeLossy body) m
  · obtain ⟨m, hm⟩ := hbody
    rw [reason_of_bodySays hm]
    exact .message hm
  · rw [not_exists] at hbody
    rw [reason_of_not_bodySays hbody, plainReason]
    split
    · next m hm => exact .header hbody (headerMessage?_eq_some_iff.mp hm)
    · next hnone =>
      rw [headerMessage?_eq_none_iff] at hnone
      split
      · next hempty =>
        exact .phrase hnone (Utf8.decodeLossy_eq_nil_iff.mp (List.isEmpty_iff.mp hempty))
      · next hne =>
        rw [List.isEmpty_iff, Utf8.decodeLossy_eq_nil_iff] at hne
        exact .raw hbody hnone hne

/-- **The reason is determined by its source.** -/
theorem reason_eq_iff {m : String} :
    (reason status headers body).1 = m ↔ IsReason status headers body m := by
  constructor
  · rintro rfl
    exact isReason_reason
  · intro h
    cases h with
    | message h => exact reason_of_bodySays h
    | header hbody h =>
      rw [reason_of_not_bodySays hbody, plainReason, headerMessage?_eq_some_iff.mpr h]
    | raw hbody hheader hne =>
      have htext : ¬ (Utf8.decodeLossy body).isEmpty = true := by
        rwa [List.isEmpty_iff, Utf8.decodeLossy_eq_nil_iff]
      rw [reason_of_not_bodySays hbody, plainReason, headerMessage?_eq_none_iff.mpr hheader]
      exact if_neg htext
    | phrase hheader hempty =>
      have htext : Utf8.decodeLossy body = [] := Utf8.decodeLossy_eq_nil_iff.mpr hempty
      rw [reason_of_not_bodySays (htext ▸ not_bodySays_nil), plainReason,
        headerMessage?_eq_none_iff.mpr hheader, htext]
      rfl

/-- The phrase of a standard status is not empty. -/
lemma phrase?_ne_empty {p : String} (h : phrase? status = some p) : p ≠ "" := by
  obtain ⟨⟨code, q⟩, hfind, rfl⟩ := Option.map_eq_some_iff.mp h
  have hphrases : ∀ e ∈ phrases, e.2 ≠ "" := by decide
  exact hphrases _ (List.mem_of_find?_eq_some hfind)

/-- **There is no reason only if nothing is said**: the body is empty, and so are all known header
fields, and the status has no phrase. -/
lemma reason_eq_empty_iff :
    (reason status headers body).1 = "" ↔ body = [] ∧
      (∀ name ∈ messageHeaders, ∀ v, headers.get? name = some v → v = "") ∧
      phrase? status = none := by
  rw [reason_eq_iff, ← not_headerSays_iff]
  constructor
  · intro h
    generalize hm : "" = m at h
    cases h with
    | message h =>
      obtain ⟨_, _, _, _, _, _, ⟨v, _, hmessage⟩, _⟩ := h
      exact absurd hm.symm hmessage.ne_empty
    | header _ h =>
      obtain ⟨_, _, _, _, ⟨_, hne⟩, _⟩ := h
      exact absurd hm.symm hne
    | raw _ _ hne =>
      rw [eq_comm, String.ofList_eq_empty_iff, Utf8.decodeLossy_eq_nil_iff] at hm
      exact absurd hm hne
    | phrase hheader hempty =>
      refine ⟨hempty, hheader, ?_⟩
      rcases hphrase : phrase? status with _ | p
      · rfl
      · rw [hphrase] at hm
        exact absurd hm.symm (phrase?_ne_empty hphrase)
  · rintro ⟨hempty, hheader, hphrase⟩
    have hreason : IsReason status headers body ((phrase? status).getD "") :=
      .phrase hheader hempty
    rwa [hphrase] at hreason

/-- **The sources in order.** The reason has a source and is determined by it: a message in the body
counts before the header fields, these before the body as it is, and this before the phrase of the
status. There is none only if nothing is said anywhere. A text that is found under a known name is
the message if the names before it say nothing. And of a body that is no document, nothing but its
text as a whole can be the reason. -/
theorem reason_ranked (status : Int) (headers : Headers) (body : Option (List UInt8)) :
    let bytes := body.getD []
    let text := Utf8.decodeLossy bytes
    let r := (reason status headers bytes).1
    (∀ m, r = m ↔ IsReason status headers bytes m) ∧
    (r = "" ↔ bytes = [] ∧
      (∀ name ∈ messageHeaders, ∀ v, headers.get? name = some v → v = "") ∧
      phrase? status = none) ∧
    (∀ root before name after s, Json.parse? text = some root →
      messageNames = before ++ name :: after →
      (∀ n ∈ before, ∀ m, ¬ DocumentSays root n m) →
      Json.find? (.text name) root = some (.text s) → s ≠ "" → r = s) ∧
    (Json.parse? text = none → bytes ≠ [] →
      HeaderSays headers r ∨ (∀ m, ¬ HeaderSays headers m) ∧ r = String.ofList text) := by
  intro bytes text r
  refine ⟨fun m => reason_eq_iff, reason_eq_empty_iff, ?_, ?_⟩
  · intro root before name after s hparse hnames hbefore hfind hne
    exact reason_eq_iff.mpr (.message ⟨root, hparse, before, name, after, hnames,
      ⟨.text s, hfind, isMessage_text hne⟩, hbefore⟩)
  · intro hparse hne
    have hreason : IsReason status headers bytes r := isReason_reason
    generalize r = m at hreason ⊢
    cases hreason with
    | message h =>
      obtain ⟨root, hroot, -⟩ := h
      exact absurd (hparse.symm.trans hroot) nofun
    | header _ h => exact .inl h
    | raw _ hheader _ => exact .inr ⟨hheader, rfl⟩
    | phrase _ hempty => exact absurd hempty hne

/-- A document with a message inside of an array. -/
def deepMessage : Value :=
  .dict [(.text "data", .list [.dict [(.text "error_message", .text "deep")]])]

/-- A message that is not at the top of the body counts before a header field. -/
theorem reason_ranked_deepMessage :
    (reason 500 ⟨[("X-Influx-Error", "late")], true⟩
      (Utf8.encode "\x7b\"data\": [\x7b\"error_message\": \"deep\"\x7d]\x7d")).1 = "deep" := by
  have hparse : Json.parse? "\x7b\"data\": [\x7b\"error_message\": \"deep\"\x7d]\x7d".toList =
      some deepMessage := by with_unfolding_all rfl
  have hbefore : ∀ n ∈ ["message"], ∀ m, ¬ DocumentSays deepMessage n m := by
    rintro n hn m ⟨v, hfind, -⟩
    obtain rfl := List.mem_singleton.mp hn
    have hnone : Json.find? (.text "message") deepMessage = none := rfl
    rw [hnone] at hfind
    exact Option.some_ne_none v hfind.symm
  rw [← Utf8.decodeLossy_encode] at hparse
  exact (reason_ranked 500 ⟨[("X-Influx-Error", "late")], true⟩ (some _)).2.2.1 deepMessage
    ["message"] "error_message" ["error"] "deep" hparse rfl hbefore rfl (by decide)

end SeriesClient.Http
