import SeriesClient.Proofs.Client.Writing
import SeriesClient.Proofs.OrderedMap

set_option relaxedAutoImplicit false
set_option autoImplicit false

/-!
# Header fields in layers

The header fields of a write come from four dictionaries, which meet in pairs: what the call sets
goes over the kind of the body, what the configuration sets goes over what the library sets, and the
first pair goes over the second one. Names count without regard to letter case where the two pairs
meet, but inside of a pair, where dictionaries are merged, two spellings are two entries.

## Main definitions

* `SeriesClient.HeaderList.valuesOf` — the values that are sent under a name.
* `SeriesClient.HeaderList.spelled` — the entries of a name, whatever its spelling.
* `SeriesClient.HeaderList.Layered` — the fields of a name come from one dictionary over another.

## Main results

* `SeriesClient.HeaderList.valuesOf_override` — the fields of a call replace those of the client.
* `SeriesClient.HeaderList.spelled_merge` — merged dictionaries are merged name by name.
* `SeriesClient.Client.write_layers` — which values a write sends under a name.
* `SeriesClient.Client.not_once_spelledLow` — a name that is sent twice.

## Design

A key is of a name if it can be sent and is the name in some letter case.
-/

namespace SeriesClient

/-! ## Names -/

namespace Value

/-- Nothing but a text is equal to it. -/
lemma eq_of_text_beq {v : Value} {s : String} (h : (text s == v) = true) : v = text s := by
  cases v with
  | text t =>
    rw [same_text, beq_iff_eq] at h
    rw [h]
  | _ => simp [BEq.beq, same, sameScalar, number?] at h

/-- Byte strings are equal when they are the same bytes. -/
lemma same_bytes (bs cs : List UInt8) : (bytes bs == bytes cs) = (bs == cs) := by
  have hsame : (bytes bs == bytes cs) = same (bytes bs) (bytes cs) := rfl
  rw [hsame, same]
  · simp only [sameScalar, number?]
  all_goals simp

/-- Nothing but a byte string is equal to it, on either side. -/
lemma eq_of_bytes_beq {v : Value} {bs : List UInt8}
    (h : (bytes bs == v) = true ∨ (v == bytes bs) = true) : v = bytes bs := by
  cases v with
  | bytes cs =>
    rw [same_bytes, same_bytes, beq_iff_eq, beq_iff_eq] at h
    rw [h.elim Eq.symm id]
  | _ => simp [BEq.beq, same, sameScalar, number?] at h

end Value

namespace HeaderList

/-- Whether a key is a name that can be sent, in whatever letter case. -/
def isNamed (name : String) (k : Value) : Bool :=
  match fieldName k with
  | .ok s => asciiLower s == asciiLower name
  | .error _ => false

/-- Keys that are equal are the same if one of them is a name. -/
lemma eq_of_beq_of_isNamed {name : String} {k k' : Value} (hbeq : (k == k') = true)
    (hnamed : isNamed name k = true ∨ isNamed name k' = true) : k = k' := by
  have hkind : ∀ v, isNamed name v = true → (∃ s, v = .text s) ∨ ∃ bs, v = .bytes bs := by
    intro v hv
    cases v with
    | text s => exact .inl ⟨s, rfl⟩
    | bytes bs => exact .inr ⟨bs, rfl⟩
    | _ => nomatch hv
  rcases hnamed with hk | hk
  · rcases hkind k hk with ⟨s, rfl⟩ | ⟨bs, rfl⟩
    · exact (Value.eq_of_text_beq hbeq).symm
    · exact (Value.eq_of_bytes_beq (.inl hbeq)).symm
  · rcases hkind k' hk with ⟨s, rfl⟩ | ⟨bs, rfl⟩
    · exact Value.beq_text_iff.mp hbeq
    · exact Value.eq_of_bytes_beq (.inr hbeq)

/-- The values that are sent under a name, in whatever letter case. -/
def valuesOf (fields : HeaderList) (name : String) : List String :=
  (fields.filter fun f => asciiLower f.1 == asciiLower name).map Prod.snd

/-- **The fields of a call replace those of the client**, name by name. -/
theorem valuesOf_override (client call : HeaderList) (name : String) :
    valuesOf (override client call) name =
      if call.hasName name then valuesOf call name else valuesOf client name := by
  have hname : ∀ f : String × String, asciiLower f.1 = asciiLower name →
      call.hasName f.1 = call.hasName name := by
    intro f hf
    simp only [hasName, hf]
  rw [valuesOf, override, List.filter_append, List.filter_filter, List.map_append]
  by_cases hcall : call.hasName name = true
  · have hnone : client.filter (fun f => asciiLower f.1 == asciiLower name && !call.hasName f.1) =
        [] := by
      rw [List.filter_eq_nil_iff]
      intro f _ hf
      obtain ⟨hsame, hnot⟩ := Bool.and_eq_true_iff.mp hf
      rw [hname f (eq_of_beq hsame), hcall] at hnot
      exact absurd hnot Bool.false_ne_true
    rw [if_pos hcall, hnone]
    rfl
  · have hcall' : call.hasName name = false := by
      rw [← Bool.not_eq_true]
      exact hcall
    have hall : client.filter (fun f => asciiLower f.1 == asciiLower name && !call.hasName f.1) =
        client.filter fun f => asciiLower f.1 == asciiLower name := by
      refine List.filter_congr fun f _ => ?_
      by_cases hsame : asciiLower f.1 = asciiLower name
      · rw [hname f hsame, hcall', Bool.not_false, Bool.and_true]
      · rw [beq_false_of_ne hsame, Bool.false_and]
    have hnone : call.filter (fun f => asciiLower f.1 == asciiLower name) = [] := by
      rw [List.filter_eq_nil_iff]
      intro f hf hsame
      exact hcall (List.any_eq_true.mpr ⟨f, hf, hsame⟩)
    rw [if_neg hcall, hall, hnone, List.map_nil, List.append_nil]
    rfl

/-- The entries of a name, in whatever letter case. -/
def spelled (name : String) (m : OrderedMap Value Value) : OrderedMap Value Value :=
  ⟨m.entries.filter fun e => isNamed name e.1⟩

/-- Each entry of a name in a dictionary that is sent is sent under the name. -/
lemma forall₂_valuesOf {m : OrderedMap Value Value} {fields : HeaderList}
    (h : ofEntries m.entries = .ok fields) (name : String) :
    List.Forall₂ (fun e text => fieldValue e.2 = .ok text) (spelled name m).entries
      (valuesOf fields name) := by
  obtain ⟨entries⟩ := m
  have hfields := forall₂_of_ofEntries h
  dsimp only [spelled] at hfields ⊢
  clear h
  induction hfields with
  | nil => exact .nil
  | @cons e f entries fields hfield _ ih =>
    obtain ⟨hname, htext⟩ := hfield
    have hnamed : isNamed name e.1 = (asciiLower f.1 == asciiLower name) := by
      rw [isNamed, hname]
    simp only [valuesOf, List.filter_cons, hnamed]
    split
    · exact .cons htext ih
    · exact ih

/-- Storing a value stores it among the entries of its name, and leaves those of all others. -/
lemma spelled_insert (name : String) (m : OrderedMap Value Value) (k v : Value) :
    spelled name (m.insert k v) =
      if isNamed name k then (spelled name m).insert k v else spelled name m := by
  obtain ⟨entries⟩ := m
  simp only [spelled, OrderedMap.insert]
  induction entries with
  | nil =>
    simp only [OrderedMap.store, List.filter_cons, List.filter_nil]
    split <;> rfl
  | cons e rest ih =>
    obtain ⟨k', v'⟩ := e
    simp only [OrderedMap.store]
    by_cases hbeq : (k' == k) = true
    · rw [if_pos hbeq]
      by_cases hnamed : isNamed name k' = true
      · have hsame : isNamed name k = true :=
          eq_of_beq_of_isNamed hbeq (.inl hnamed) ▸ hnamed
        simp only [List.filter_cons, hnamed, hsame, if_true, OrderedMap.store, hbeq]
      · have hother : ¬ isNamed name k = true := by
          intro hk
          exact hnamed (eq_of_beq_of_isNamed hbeq (.inr hk) ▸ hk)
        simp only [List.filter_cons, hnamed, hother, if_false, Bool.false_eq_true]
    · rw [if_neg hbeq]
      by_cases hnamed : isNamed name k' = true
      · by_cases hk : isNamed name k = true
        · simp only [hk, if_true] at ih
          simp only [List.filter_cons, hnamed, hk, if_true, OrderedMap.store, hbeq, if_false,
            Bool.false_eq_true]
          injection ih with ih
          rw [ih]
        · simp only [hk, if_false, Bool.false_eq_true] at ih
          simp only [List.filter_cons, hnamed, hk, if_true, if_false, Bool.false_eq_true]
          injection ih with ih
          rw [ih]
      · simp only [List.filter_cons, hnamed, if_false, Bool.false_eq_true]
        exact ih

/-- **Merged dictionaries are merged name by name.** -/
theorem spelled_merge (name : String) (below above : OrderedMap Value Value) :
    spelled name (below.merge above) = (spelled name below).merge (spelled name above) := by
  obtain ⟨entries⟩ := above
  simp only [OrderedMap.merge, OrderedMap.insertAll]
  induction entries generalizing below with
  | nil => rfl
  | cons e rest ih =>
    rw [List.foldl_cons, ih, spelled_insert]
    simp only [spelled, List.filter_cons]
    split
    · rfl
    · rfl

/-- Entries of a name are of the name. -/
lemma isNamed_of_mem_spelled {name : String} {m : OrderedMap Value Value} {k : Value}
    (h : k ∈ (spelled name m).keys) : isNamed name k = true := by
  obtain ⟨e, he, rfl⟩ := List.mem_map.mp h
  exact (List.mem_filter.mp he).2

/-- A name equals itself. -/
lemma beq_self_of_isNamed {name : String} {k : Value} (h : isNamed name k = true) :
    (k == k) = true := by
  cases k with
  | text s => rw [Value.same_text, beq_self_eq_true]
  | bytes bs => rw [Value.same_bytes, beq_self_eq_true]
  | _ => nomatch h

/-- Entries of a name are as far apart as all entries. -/
lemma distinctKeys_spelled {m : OrderedMap Value Value} (h : m.DistinctKeys) (name : String) :
    (spelled name m).DistinctKeys := by
  have hsub : (spelled name m).keys.Sublist m.keys := List.filter_sublist.map Prod.fst
  exact List.Pairwise.sublist hsub h

/-- The spellings of a name in a dictionary that was merged from two are those in both. -/
lemma mem_keys_spelled_merge {name : String} {below above : OrderedMap Value Value} {k : Value} :
    k ∈ (spelled name (below.merge above)).keys ↔
      k ∈ (spelled name below).keys ++ (spelled name above).keys := by
  rw [spelled_merge, List.mem_append]
  constructor
  · intro hk
    rcases OrderedMap.mem_keys_insertAll hk with hk | ⟨e, he, rfl⟩
    · exact .inl hk
    · exact .inr (List.mem_map_of_mem he)
  · rintro (hk | hk)
    · exact OrderedMap.mem_keys_insertAll_of_mem hk _
    · obtain ⟨e, he, rfl⟩ := List.mem_map.mp hk
      obtain ⟨k', hk', hsame⟩ :=
        OrderedMap.exists_mem_keys_insertAll (m := spelled name below) he
      rcases hsame with rfl | hbeq
      · exact hk'
      · rw [← eq_of_beq_of_isNamed hbeq (.inr (isNamed_of_mem_spelled hk))]
        exact hk'

/-- The values of a name come from one dictionary over another one: there is one value for each
spelling, so there is just one if the two spell the name alike. It is the one of the dictionary
above, if that has the name, and otherwise the one of the dictionary below. -/
structure Layered (name : String) (below above : OrderedMap Value Value) (values : List String) :
    Prop where
  /-- There is one value for each spelling. -/
  values_eq : List.Forall₂ (fun e text => fieldValue e.2 = .ok text)
    (spelled name (below.merge above)).entries values
  /-- There is none if neither has the name. -/
  none_iff : values = [] ↔ (spelled name below).keys ++ (spelled name above).keys = []
  /-- There is just one if both spell the name alike. -/
  once_iff : (∃ text, values = [text]) ↔
    (spelled name below).keys ++ (spelled name above).keys ≠ [] ∧
      ∃ key, ∀ k ∈ (spelled name below).keys ++ (spelled name above).keys, k = key
  /-- It is the one of the dictionary above, if that has the name. -/
  of_over : ∀ text, values = [text] → (spelled name above).keys ≠ [] →
    ∃ e ∈ above.entries, isNamed name e.1 = true ∧ fieldValue e.2 = .ok text
  /-- Otherwise it is the one of the dictionary below. -/
  of_under : ∀ text, values = [text] → (spelled name above).keys = [] →
    ∃ e ∈ below.entries, isNamed name e.1 = true ∧ fieldValue e.2 = .ok text

/-- A list without repetitions in which all items are the same has one item. -/
lemma exists_singleton {keys : List Value} (hne : keys ≠ []) {key : Value}
    (hsame : ∀ k ∈ keys, k = key) (hself : (key == key) = true)
    (hdistinct : keys.Pairwise fun k k' => (k == k') = false) : keys = [key] := by
  cases keys with
  | nil => exact absurd rfl hne
  | cons k rest =>
    obtain rfl := hsame k List.mem_cons_self
    cases rest with
    | nil => rfl
    | cons k' rest =>
      obtain rfl := hsame k' (List.mem_cons_of_mem _ List.mem_cons_self)
      have hne := (List.pairwise_cons.mp hdistinct).1 _ List.mem_cons_self
      rw [hself] at hne
      nomatch hne

/-- **A dictionary that is sent is layered** in the names that were merged from two. -/
lemma layered_of_merge {name : String} {m below above : OrderedMap Value Value}
    (hdistinct : below.DistinctKeys) (hmerge : spelled name m = spelled name (below.merge above))
    {fields : HeaderList} (h : ofEntries m.entries = .ok fields) :
    Layered name below above (valuesOf fields name) := by
  have hvalues := forall₂_valuesOf h name
  rw [hmerge] at hvalues
  have hlength :
      (spelled name (below.merge above)).keys.length = (valuesOf fields name).length := by
    rw [OrderedMap.keys, List.length_map]
    exact hvalues.length_eq
  have hone : (∃ text, valuesOf fields name = [text]) ↔
      ∃ key, (spelled name (below.merge above)).keys = [key] := by
    rw [← List.length_eq_one_iff, ← List.length_eq_one_iff, hlength]
  have hnil : (spelled name (below.merge above)).keys = [] ↔
      (spelled name below).keys ++ (spelled name above).keys = [] := by
    simp only [List.eq_nil_iff_forall_not_mem, mem_keys_spelled_merge]
  refine ⟨hvalues, ?_, ?_, ?_, ?_⟩
  · rw [← hnil, ← List.length_eq_zero_iff, ← hlength, List.length_eq_zero_iff]
  · rw [hone, Ne, ← hnil]
    simp only [← mem_keys_spelled_merge]
    constructor
    · rintro ⟨key, hkeys⟩
      rw [hkeys]
      exact ⟨List.cons_ne_nil _ _, key, fun k hk => List.mem_singleton.mp hk⟩
    · rintro ⟨hne, key, hsame⟩
      have hkey : key ∈ (spelled name (below.merge above)).keys := by
        obtain ⟨k, hk⟩ := List.exists_mem_of_ne_nil _ hne
        rw [← hsame k hk]
        exact hk
      exact ⟨key, exists_singleton hne hsame (beq_self_of_isNamed (isNamed_of_mem_spelled hkey))
        (distinctKeys_spelled (OrderedMap.distinctKeys_merge hdistinct above) name)⟩
  · intro text hvalue hover
    rw [hvalue, spelled_merge, OrderedMap.merge] at hvalues
    obtain ⟨e, htext, hentries⟩ : ∃ e, fieldValue e.2 = .ok text ∧
        ((spelled name below).insertAll (spelled name above).entries).entries = [e] := by
      obtain ⟨e, _, htext, hrest, hentries⟩ := List.forall₂_cons_right_iff.mp hvalues
      obtain rfl := List.forall₂_nil_right_iff.mp hrest
      exact ⟨e, htext, hentries⟩
    -- the entry that is stored last is the only one
    have hne : (spelled name above).entries ≠ [] := fun hempty => hover (congrArg _ hempty)
    obtain ⟨init, last, hlast⟩ : ∃ init last, (spelled name above).entries = init ++ [last] :=
      ⟨_, _, (List.dropLast_append_getLast hne).symm⟩
    rw [hlast, OrderedMap.insertAll, List.foldl_append] at hentries
    obtain ⟨k, -, hmem⟩ := OrderedMap.exists_mem_insert
      ((spelled name below).insertAll init) last.1 last.2
    have hsame : (k, last.2) = e := by
      rw [← List.mem_singleton, ← hentries]
      exact hmem
    have hmem : last ∈ (spelled name above).entries := by
      rw [hlast]
      exact List.mem_append_right _ (List.mem_singleton_self _)
    refine ⟨last, (List.mem_filter.mp hmem).1, (List.mem_filter.mp hmem).2, ?_⟩
    rw [← hsame] at htext
    exact htext
  · intro text hvalue hover
    have hempty : (spelled name above).entries = [] := List.map_eq_nil_iff.mp hover
    rw [hvalue, spelled_merge, OrderedMap.merge, hempty] at hvalues
    obtain ⟨e, _, htext, -, hentries⟩ := List.forall₂_cons_right_iff.mp hvalues
    have hmem : e ∈ (spelled name below).entries := by
      rw [show (spelled name below).entries = e :: _ from hentries]
      exact List.mem_cons_self
    exact ⟨e, (List.mem_filter.mp hmem).1, (List.mem_filter.mp hmem).2, htext⟩

end HeaderList

/-! ## Writes -/

namespace WritePlan

/-- The kind of the body, as a header field. -/
def kind : OrderedMap Value Value :=
  .ofList [(.text "Content-Type", .text "text/plain; charset=utf-8")]

/-- What a plan says about its header fields. -/
lemma headers_of_ofEntries {config : ClientConfig} {options : WriteOptions} {data : Entries}
    {plan : WritePlan} (h : ofEntries config options data = .ok (some plan)) :
    ∃ call, options.headersOf = .ok call ∧ plan.headers = headersOf call plan.compressed := by
  obtain ⟨-, -, -, -, -, -, -, -, ⟨hnone, -⟩ | ⟨plan', call, hsome, -, -, hheaders⟩⟩ :=
    exists_of_ofEntries h
  · nomatch hnone
  · obtain rfl := Option.some.inj hsome
    exact ⟨call, hheaders⟩

/-- Compression is told in a field of its own. -/
lemma spelled_headersOf {name : String} {compressed : Bool}
    (hname : compressed = true → asciiLower name ≠ asciiLower "Content-Encoding")
    (call : OrderedMap Value Value) :
    HeaderList.spelled name (headersOf call compressed) =
      HeaderList.spelled name (kind.merge call) := by
  cases compressed with
  | false => rfl
  | true =>
    have hother : HeaderList.isNamed name (.text "Content-Encoding") = false := by
      have hfield : HeaderList.fieldName (.text "Content-Encoding") = .ok "Content-Encoding" := rfl
      rw [HeaderList.isNamed, hfield]
      exact beq_false_of_ne (Ne.symm (hname rfl))
    have hheaders : headersOf call true =
        (kind.merge call).insert (.text "Content-Encoding") (.text "gzip") := rfl
    rw [hheaders, HeaderList.spelled_insert, hother, if_neg Bool.false_ne_true]

end WritePlan

namespace Session

/-- The fields of a session are those of the configuration over those of the library. -/
lemma headers_of_ofConfig {config : ClientConfig} {files : List String} {session : Session}
    (h : ofConfig config files = .ok session) :
    ∃ own, config.headers.toMap = .ok own ∧
      HeaderList.ofEntries ((libraryHeaders config).merge own).entries = .ok session.headers := by
  obtain ⟨own, hown, h⟩ := bind_eq_ok_iff.mp h
  obtain ⟨_, -, h⟩ := bind_eq_ok_iff.mp h
  obtain ⟨address, -, h⟩ := bind_eq_ok_iff.mp h
  obtain ⟨fields, hfields, h⟩ := bind_eq_ok_iff.mp h
  obtain rfl := Except.ok.inj h
  exact ⟨own, hown, hfields⟩

/-- The library sets each of its fields once. -/
lemma distinctKeys_libraryHeaders (config : ClientConfig) :
    (libraryHeaders config).DistinctKeys := by
  unfold libraryHeaders
  dsimp only
  split
  · exact OrderedMap.distinctKeys_insert
      (OrderedMap.distinctKeys_insertAll OrderedMap.distinctKeys_empty _) _ _
  · exact OrderedMap.distinctKeys_insertAll OrderedMap.distinctKeys_empty _

end Session

namespace Client

variable {c : Client} {options : WriteOptions} {data : Entries} {net : Network}
  {request : Request}

/-- Sending a plan leaves behind what its request leaves behind. -/
lemma send_snd (plan : WritePlan) :
    (c.send plan net).2 = (c.session.request "POST" plan.path plan.headers.entries plan.body
      plan.compressed plan.params net).2 := by
  unfold send
  dsimp only
  split <;> rfl

/-- A write that has sent a request has sent that of its plan. -/
lemma exists_plan (hsent : (c.write options data net).2.events = net.events ++ [.http request]) :
    ∃ plan fields, WritePlan.ofEntries c.config options data = .ok (some plan) ∧
      HeaderList.ofEntries plan.headers.entries = .ok fields ∧
      request.headers = HeaderList.override c.session.headers fields ∧
      request.compressed = plan.compressed := by
  have hquiet : ∀ net' : Network, net'.events = net.events →
      net'.events ≠ net.events ++ [.http request] := by
    intro net' hnet' hevents
    rw [hnet'] at hevents
    simp at hevents
  unfold write at hsent
  split at hsent
  · exact absurd hsent (hquiet net rfl)
  · split at hsent
    · exact absurd hsent (hquiet net rfl)
    · exact absurd hsent (hquiet _ rfl)
    · next plan hplan =>
      rw [send_snd] at hsent
      rcases hfields : HeaderList.ofEntries plan.headers.entries with fault | fields
      · rw [Session.request_of_unsendable hfields] at hsent
        exact absurd hsent (hquiet _ rfl)
      · by_cases hclosed : c.session.closed = true
        · rw [Session.request_of_closed hfields hclosed] at hsent
          exact absurd hsent (hquiet _ rfl)
        · rw [Bool.not_eq_true] at hclosed
          rw [Session.request_of_fields hfields hclosed] at hsent
          obtain rfl : _ = request := by simpa [Network.sent] using hsent
          exact ⟨plan, fields, hplan, hfields, rfl, rfl⟩

/-- **Which values a write sends under a name.** Let a client of some configuration have sent a
request for a write, and let a name be given, which is not that of the compression if the client has
compressed the body. If the call has the name in some letter case, or it is that of the kind of the
body, then what is sent under it is layered, with the call over the kind. Otherwise it is layered
with the configuration over the library. So just one value is sent if the two dictionaries that meet
spell the name alike, and one for each spelling if they do not.

**Proof sketch.** Where the two pairs meet, fields are replaced without regard to letter case, so
one pair decides. A merged dictionary is merged name by name, since keys that are names are equal
only if they are the same. -/
theorem write_layers {files : List String}
    (hsession : Session.ofConfig c.config files = .ok c.session)
    (hsent : (c.write options data net).2.events = net.events ++ [.http request]) :
    ∃ call own, options.headersOf = .ok call ∧ c.config.headers.toMap = .ok own ∧
      ∀ name, (request.compressed = true → asciiLower name ≠ asciiLower "Content-Encoding") →
        ((HeaderList.spelled name WritePlan.kind).keys ++ (HeaderList.spelled name call).keys ≠ [] →
          HeaderList.Layered name WritePlan.kind call
            (HeaderList.valuesOf request.headers name)) ∧
        ((HeaderList.spelled name WritePlan.kind).keys ++ (HeaderList.spelled name call).keys = [] →
          HeaderList.Layered name (Session.libraryHeaders c.config) own
            (HeaderList.valuesOf request.headers name)) := by
  obtain ⟨own, hown, hclient⟩ := Session.headers_of_ofConfig hsession
  obtain ⟨plan, fields, hplan, hfields, hheaders, hcompressed⟩ := exists_plan hsent
  obtain ⟨call, hcall, hplanned⟩ := WritePlan.headers_of_ofEntries hplan
  refine ⟨call, own, hcall, hown, fun name hname => ?_⟩
  rw [hcompressed] at hname
  have hkind : WritePlan.kind.DistinctKeys :=
    OrderedMap.distinctKeys_insertAll OrderedMap.distinctKeys_empty _
  have hupper : HeaderList.Layered name WritePlan.kind call (fields.valuesOf name) := by
    refine HeaderList.layered_of_merge hkind ?_ hfields
    rw [hplanned, WritePlan.spelled_headersOf hname]
  have hlower : HeaderList.Layered name (Session.libraryHeaders c.config) own
      (HeaderList.valuesOf c.session.headers name) :=
    HeaderList.layered_of_merge (Session.distinctKeys_libraryHeaders c.config) rfl hclient
  have hdecides : fields.hasName name = true ↔ fields.valuesOf name ≠ [] := by
    rw [HeaderList.hasName, HeaderList.valuesOf, Ne, List.map_eq_nil_iff, List.filter_eq_nil_iff,
      List.any_eq_true]
    simp
  rw [hheaders, HeaderList.valuesOf_override]
  constructor
  · intro hset
    rw [if_pos (hdecides.mpr fun hnone => hset (hupper.none_iff.mp hnone))]
    exact hupper
  · intro hunset
    rw [if_neg fun hset => hdecides.mp hset (hupper.none_iff.mpr hunset)]
    exact hlower

/-- A client with a token and a header field of its own. -/
def tokenClient : Client :=
  ⟨{ host := .text "http://h", database := .text "d", token := .text "t",
     headers := .dict [(.text "X-Site", .text "a")] },
    ⟨Address.ofText "http://h", [("User-Agent", userAgent), ("Accept", "*/*"),
      ("Authorization", "Token t"), ("X-Site", "a")], false⟩, .empty, false, false⟩

/-- A network that answers with success. -/
def kindNetwork : Network := ⟨[], [], none, [], []⟩

/-- The session of the client is the one that its configuration describes. -/
lemma ofConfig_tokenClient :
    Session.ofConfig tokenClient.config [] = .ok tokenClient.session := by
  with_unfolding_all rfl

/-- A field of the configuration is replaced by one of the call in another letter case. -/
theorem write_layers_otherSite :
    let options : WriteOptions := { headers := .dict [(.text "x-site", .text "b")] }
    let call : OrderedMap Value Value := ⟨[(.text "x-site", .text "b")]⟩
    Session.ofConfig tokenClient.config [] = .ok tokenClient.session ∧
      ∃ request, (tokenClient.write options (.many [.raw (.text "m f=1i")]) kindNetwork).2.events =
          kindNetwork.events ++ [.http request] ∧
        HeaderList.Layered "X-Site" WritePlan.kind call
          (HeaderList.valuesOf request.headers "X-Site") ∧
        HeaderList.valuesOf request.headers "X-Site" = ["b"] := by
  intro options call
  obtain ⟨request, hsent, hvalues⟩ : ∃ request,
      (tokenClient.write options (.many [.raw (.text "m f=1i")]) kindNetwork).2.events =
          kindNetwork.events ++ [.http request] ∧
        HeaderList.valuesOf request.headers "X-Site" = ["b"] :=
    ⟨_, by with_unfolding_all rfl, by with_unfolding_all rfl⟩
  obtain ⟨call', own, hcall, -, hlayered⟩ := write_layers ofConfig_tokenClient hsent
  obtain rfl : call = call' := Except.ok.inj hcall
  have hset : (HeaderList.spelled "X-Site" WritePlan.kind).keys ++
      (HeaderList.spelled "X-Site" call).keys = [.text "x-site"] := by with_unfolding_all rfl
  have hname : asciiLower "X-Site" ≠ asciiLower "Content-Encoding" := by decide
  refine ⟨ofConfig_tokenClient, request, hsent, (hlayered "X-Site" fun _ => hname).1 ?_, hvalues⟩
  rw [hset]
  exact List.cons_ne_nil _ _

/-- **A name may be sent twice**, if the call spells that of the kind of the body in lower case. -/
theorem not_once_spelledLow :
    let options : WriteOptions := { headers := .dict [(.text "content-type", .text "text/x")] }
    Session.ofConfig tokenClient.config [] = .ok tokenClient.session ∧
      ∃ request, (tokenClient.write options (.many [.raw (.text "m f=1i")]) kindNetwork).2.events =
          [.http request] ∧
        HeaderList.valuesOf request.headers "Content-Type" ≠ ["text/x"] := by
  refine ⟨ofConfig_tokenClient, _, by with_unfolding_all rfl, ?_⟩
  have hvalues : ["text/plain; charset=utf-8", "text/x"] ≠ ["text/x"] := by decide
  exact hvalues

end Client

end SeriesClient
