import SeriesClient.Proofs.Client.Lifecycle
import SeriesClient.Proofs.TextKeys

set_option relaxedAutoImplicit false
set_option autoImplicit false

/-!
# Header fields of queries in layers

The header fields of a query come from three layers: the call, the configuration of the client, and
its access token. Names count without regard to letter case, between the layers and inside of each,
where the last spelling counts.

## Main definitions

* `SeriesClient.IsAscii` — whether a text is in ASCII.
* `SeriesClient.CallHeaders.lastOf` — the value of a name in a dictionary.
* `SeriesClient.CallHeaders.bearer` — what an access token says.

## Main results

* `SeriesClient.CallHeaders.storeLower_named` — a dictionary is stored under lower-case names.
* `SeriesClient.CallHeaders.ofConfig_named`, `SeriesClient.CallHeaders.layer_eq` — how the layers
  are put together.
* `SeriesClient.Client.callHeaders_after` — no call changes the fields of a client.
* `SeriesClient.Client.queryHeaders_layered` — the header fields of a query.

## Design

The fields of the client are stored over its token, and those of the call are filled up with the
fields of the client. Both come to the same: look-ups ask one layer after the other.
-/

namespace SeriesClient

/-! ## Names in lower case -/

/-- Whether all characters of a text are in ASCII. -/
def IsAscii (s : String) : Prop := ∀ c ∈ s.toList, c.toNat < 0x80

/-- In ASCII, the small form of a text has the letters A to Z in lower case. -/
lemma lowerText_of_isAscii {s : String} (h : IsAscii s) : lowerText s = asciiLower s := by
  have hchars : ∀ cs : List Char, (∀ c ∈ cs, c.toNat < 0x80) →
      lowerChars cs = cs.map Char.toLower := by
    intro cs hcs
    induction cs with
    | nil => rfl
    | cons c cs ih =>
      obtain ⟨hc, hcs⟩ := List.forall_mem_cons.mp hcs
      rw [lowerChars, List.flatMap_cons, lowerChar_ascii c hc, List.map_cons]
      exact congrArg (c.toLower :: ·) (ih hcs)
  rw [lowerText, asciiLower, hchars _ h]

namespace CallHeaders

/-- The entries of a dictionary under their names in lower case. -/
def lowered (entries : List (String × Value)) : List (String × Value) :=
  entries.map fun e => (asciiLower e.1, e.2)

/-- **A dictionary is stored under lower-case names.** -/
theorem storeLower_named (m : CallHeaders) {entries : List (String × Value)}
    (h : ∀ e ∈ entries, IsAscii e.1) :
    storeLower m (Value.named entries) = .ok (m.insertAll (Value.named (lowered entries))) := by
  induction entries generalizing m with
  | nil => rfl
  | cons e entries ih =>
    obtain ⟨he, hentries⟩ := List.forall_mem_cons.mp h
    show storeLower m ((.text e.1, e.2) :: Value.named entries) = _
    rw [storeLower, lowerName, lowerText_of_isAscii he]
    exact ih _ hentries

/-- The value of a name in a dictionary: that of its last spelling. -/
def lastOf (entries : List (String × Value)) (name : String) : Option Value :=
  (entries.filter fun e => asciiLower e.1 == asciiLower name).getLast?.map Prod.snd

/-- What is found under the lower-case form of a name after a dictionary has been stored. -/
lemma find?_insertAll_lowered (m : CallHeaders) (entries : List (String × Value))
    (name : String) :
    (m.insertAll (Value.named (lowered entries))).find? (.text (asciiLower name)) =
      (lastOf entries name).or (m.find? (.text (asciiLower name))) := by
  rw [OrderedMap.find?_insertAll_named, lowered, List.filter_map, List.getLast?_map,
    Option.map_map]
  rfl

/-- Every key is a text in lower case. -/
def IsLower (m : CallHeaders) : Prop :=
  ∀ k ∈ m.keys, ∃ n, k = .text n ∧ asciiLower n = n

/-- Fields whose names are changed to lower case keep the names in lower case. -/
lemma IsLower.insertAll_lowered {m : CallHeaders} (h : m.IsLower)
    (entries : List (String × Value)) : IsLower (m.insertAll (Value.named (lowered entries))) := by
  intro k hk
  rcases OrderedMap.mem_keys_insertAll hk with hk | ⟨e, he, rfl⟩
  · exact h k hk
  · obtain ⟨e', he', rfl⟩ := List.mem_map.mp he
    obtain ⟨e, -, rfl⟩ := List.mem_map.mp he'
    exact ⟨_, rfl, asciiLower_idem e.1⟩

/-- Fields of a lower layer keep the names in lower case if theirs are. -/
lemma IsLower.fill {m other : CallHeaders} (h : m.IsLower) (h' : other.IsLower) :
    IsLower (m.fill other) := fun k hk =>
  (OrderedMap.mem_keys_fill hk).elim (h k) (h' k)

/-! ## The layers -/

/-- What an access token says; nothing if there is none. -/
def bearer (token : Value) : Option Value :=
  match token with
  | .text t => if t.isEmpty then none else some (.text ("Bearer " ++ t))
  | _ => none

/-- The fields of a client before those of its configuration are stored. -/
def tokenLayer (token : Value) : CallHeaders :=
  ⟨(bearer token).toList.map fun v => (.text "authorization", v)⟩

/-- What is found under a name in the layer of the access token. -/
lemma find?_tokenLayer (token : Value) (s : String) :
    (tokenLayer token).find? (.text s) = if s = "authorization" then bearer token else none := by
  unfold tokenLayer
  cases bearer token with
  | none => exact (ite_self none).symm
  | some v =>
    by_cases h : s = "authorization"
    · subst h
      rfl
    · have hne : (Value.text "authorization" == Value.text s) = false := by
        rw [Value.same_text, beq_eq_false_iff_ne]
        exact Ne.symm h
      rw [if_neg h]
      simp [OrderedMap.find?, OrderedMap.lookup, hne]

/-- The name of the field for the access token is in lower case. -/
lemma isLower_tokenLayer (token : Value) : (tokenLayer token).IsLower := by
  unfold tokenLayer
  cases bearer token with
  | none => exact nofun
  | some v =>
    intro k hk
    exact ⟨"authorization", List.mem_singleton.mp hk, by decide⟩

/-- **The fields of a client**: those of its configuration over its access token. -/
theorem ofConfig_named {config : ClientConfig} {own : List (String × Value)}
    (htoken : config.token = .null ∨ ∃ t, config.token = .text t)
    (hheaders : config.headers = .dict (Value.named own) ∨ config.headers = .null ∧ own = [])
    (hown : ∀ e ∈ own, IsAscii e.1) :
    ofConfig config =
      .ok ((tokenLayer config.token).insertAll (Value.named (lowered own))) := by
  have hstore : ∀ base : CallHeaders,
      (if config.headers.truthy then do storeLower base (← config.headers.dictEntries)
        else return base) = Except.ok (base.insertAll (Value.named (lowered own))) := by
    intro base
    rcases hheaders with h | ⟨h, rfl⟩
    · rw [h]
      cases own with
      | nil => rfl
      | cons e own => exact storeLower_named base hown
    · rw [h]
      rfl
  rw [ofConfig]
  rcases htoken with h | ⟨t, h⟩
  · rw [h]
    exact hstore _
  · rw [h, tokenLayer, bearer, Value.truthy]
    by_cases ht : t.isEmpty = true
    · simp only [ht, Bool.not_true, Bool.false_eq_true, if_false, if_true]
      exact hstore _
    · have htext : String.ofList ("Bearer ".toList ++ t.toList) = "Bearer " ++ t := by
        rw [String.ofList_append, String.ofList_toList, String.ofList_toList]
      rw [Bool.not_eq_true] at ht
      simp only [ht, Bool.not_false, if_true, Bool.false_eq_true, if_false, ← htext]
      exact hstore _

/-- **The fields of a call over those of a client**: the call is filled up with the client. -/
theorem layer_eq (client : CallHeaders) {call : List (String × Value)}
    (hcall : ∀ e ∈ call, IsAscii e.1) :
    layer client (Value.named call) =
      .ok ((OrderedMap.empty.insertAll (Value.named (lowered call))).fill client) := by
  rw [layer, storeLower_named _ hcall]
  rfl

/-- A name is in a dictionary if it has a last spelling there. -/
lemma isSome_lastOf_iff {entries : List (String × Value)} {name : String} :
    (lastOf entries name).isSome = true ↔
      ∃ e ∈ entries, asciiLower e.1 = asciiLower name := by
  rw [lastOf, Option.isSome_map, List.getLast?_isSome, ← List.length_pos_iff,
    List.length_pos_iff_exists_mem]
  simp only [List.mem_filter, beq_iff_eq]

end CallHeaders

namespace Client

/-- A call leaves the fields of the client alone. -/
lemma callHeaders_perform (c : Client) (net : Network) (call : Call) :
    (c.perform net call).2.1.callHeaders = c.callHeaders := by
  cases call with
  | write options data => rfl
  | writeOne options entry => rfl
  | version => rfl
  | close =>
    simp only [perform, close]
    split <;> rfl
  | query options query params now =>
    obtain ⟨result, added, hconnect, -⟩ := c.connect_cases net
    simp only [perform, Client.query, start, hconnect]
    split
    · rfl
    · cases result with
      | error fault => rfl
      | ok _ =>
        dsimp only
        split
        · rfl
        · split <;> rfl

/-- **No call changes the fields of a client.** -/
theorem callHeaders_after (c : Client) (net : Network) (calls : List Call) :
    (c.after net calls).1.callHeaders = c.callHeaders := by
  induction calls using List.reverseRecOn with
  | nil => rfl
  | append_singleton calls call ih =>
    rw [after, List.foldl_append]
    exact (callHeaders_perform _ _ call).trans ih

/-- The header fields of a client are those that its configuration describes. -/
lemma callHeaders_of_ofConfig {config : ClientConfig} {files : List String} {c : Client}
    (h : ofConfig config files = .ok c) : CallHeaders.ofConfig config = .ok c.callHeaders := by
  obtain ⟨_, -, h⟩ := bind_eq_ok_iff.mp h
  obtain ⟨_, -, h⟩ := bind_eq_ok_iff.mp h
  obtain ⟨fields, hfields, h⟩ := bind_eq_ok_iff.mp h
  obtain rfl := Except.ok.inj h
  exact hfields

/-- **The header fields of a query.** Their names are in lower case and differ. A name is among them
if the call, the configuration or the access token has it in some letter case, and its value is that
of the first of the three that does; within one of them, it is that of the last spelling. And the
fields of a client are the same for all of its queries.

**Proof sketch.** Each dictionary is stored under lower-case names, and what is found under one is
the last value that was stored there. Filling up keeps what is there. -/
theorem queryHeaders_layered {config : ClientConfig} {own call : List (String × Value)}
    (htoken : config.token = .null ∨ ∃ t, config.token = .text t)
    (hheaders : config.headers = .dict (Value.named own) ∨ config.headers = .null ∧ own = [])
    (hown : ∀ e ∈ own, IsAscii e.1) (hcall : ∀ e ∈ call, IsAscii e.1) :
    ∃ client m, CallHeaders.ofConfig config = .ok client ∧
      CallHeaders.layer client (Value.named call) = .ok m ∧ m.DistinctKeys ∧
      (∀ k ∈ m.keys, ∃ n, k = .text n ∧ asciiLower n = n) ∧
      (∀ name, .text (asciiLower name) ∈ m.keys ↔
        (∃ e ∈ call ++ own, asciiLower e.1 = asciiLower name) ∨
          asciiLower name = "authorization" ∧ (CallHeaders.bearer config.token).isSome = true) ∧
      (∀ name, m.find? (.text (asciiLower name)) =
        (CallHeaders.lastOf call name).or ((CallHeaders.lastOf own name).or
          (if asciiLower name = "authorization" then CallHeaders.bearer config.token else none))) ∧
      ∀ files c net calls, ofConfig config files = .ok c →
        (c.after net calls).1.callHeaders = client := by
  have hclient := CallHeaders.ofConfig_named htoken hheaders hown
  generalize hlayer : (CallHeaders.tokenLayer config.token).insertAll
    (Value.named (CallHeaders.lowered own)) = client at hclient
  have hlower : CallHeaders.IsLower client := by
    rw [← hlayer]
    exact (CallHeaders.isLower_tokenLayer config.token).insertAll_lowered own
  have hempty : CallHeaders.IsLower .empty := nofun
  have hfind : ∀ name, ((OrderedMap.empty.insertAll
      (Value.named (CallHeaders.lowered call))).fill client).find? (.text (asciiLower name)) =
        (CallHeaders.lastOf call name).or ((CallHeaders.lastOf own name).or
          (if asciiLower name = "authorization" then CallHeaders.bearer config.token
            else none)) := by
    intro name
    rw [OrderedMap.find?_fill_text, CallHeaders.find?_insertAll_lowered, ← hlayer,
      CallHeaders.find?_insertAll_lowered, CallHeaders.find?_tokenLayer]
    exact congrArg (Option.or · _) (Option.or_none)
  refine ⟨client, _, hclient, CallHeaders.layer_eq client hcall, ?_, ?_, fun name => ?_, hfind,
    fun files c net calls hc => ?_⟩
  · exact OrderedMap.distinctKeys_fill
      (OrderedMap.distinctKeys_insertAll OrderedMap.distinctKeys_empty _) client
  · exact (hempty.insertAll_lowered call).fill hlower
  · rw [OrderedMap.mem_keys_text_iff, hfind, Option.isSome_or, Option.isSome_or, Bool.or_eq_true,
      Bool.or_eq_true, CallHeaders.isSome_lastOf_iff, CallHeaders.isSome_lastOf_iff]
    simp only [List.mem_append, or_and_right, exists_or, or_assoc]
    refine or_congr_right (or_congr_right ?_)
    split
    · next h => simp [h]
    · next h => simp [h]
  · rw [callHeaders_after]
    exact Except.ok.inj ((callHeaders_of_ofConfig hc).symm.trans hclient)

/-- A name in three spellings, and another one that the access token has as well. -/
theorem queryHeaders_layered_threeSpellings :
    let config : ClientConfig :=
      { host := .text "http://h", token := .text "t", headers := .dict (Value.named
        [("X-Site", .text "a"), ("Authorization", .text "own"), ("x-site", .text "b")]) }
    ∃ client m, CallHeaders.ofConfig config = .ok client ∧
      CallHeaders.layer client (Value.named [("X-SITE", .text "c")]) = .ok m ∧
      m.find? (.text "x-site") = some (.text "c") ∧
      m.find? (.text "authorization") = some (.text "own") ∧
      ∀ files c net calls, ofConfig config files = .ok c →
        (c.after net calls).1.callHeaders = client := by
  intro config
  have htoken : config.token = .null ∨ ∃ t, config.token = .text t := .inr ⟨"t", rfl⟩
  have hcall : ∀ e ∈ [("X-SITE", Value.text "c")], IsAscii e.1 := by simp [IsAscii]
  obtain ⟨client, m, hclient, hlayer, -, -, -, hfind, hcalls⟩ :=
    queryHeaders_layered htoken (.inl rfl) (by simp [IsAscii]) hcall
  refine ⟨client, m, hclient, hlayer, ?_, ?_, hcalls⟩
  · exact hfind "x-site"
  · exact hfind "authorization"

end Client

end SeriesClient
