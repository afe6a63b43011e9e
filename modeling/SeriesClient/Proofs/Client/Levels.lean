import Mathlib.Tactic.Lemma
import SeriesClient.Client.Write

set_option relaxedAutoImplicit false
set_option autoImplicit false

/-!
# Settings of a call and of a client

Five settings can be given with one write or for all writes of a client. A setting that is given
works the same at either level, and with a write it hides what the client has. The settings differ
in what counts as given: default tags are given if there are any, and every other setting is given
unless it is absent or an empty text, so that zero and falsehood are settings.

## Main definitions

* `SeriesClient.WriteSetting` — the settings that both levels have.
* `SeriesClient.WriteSetting.isSet` — whether a value gives a setting.
* `SeriesClient.WriteSetting.onCall`, `SeriesClient.WriteSetting.onClient` — a setting given at one
  of the levels.
* `SeriesClient.WriteSetting.resolved` — what a setting is for a write.
* `SeriesClient.Client.reconfigured` — a client with one setting changed.

## Main results

* `SeriesClient.WriteSetting.set?_callName`, `SeriesClient.WriteSetting.set?_clientName` — giving a
  setting is replacing the one of its name.
* `SeriesClient.WritePlan.ofEntries_congr` — a write is planned from its resolved settings.
* `SeriesClient.WriteSetting.resolved_moved` — a setting is the same from either level.
* `SeriesClient.WriteSetting.resolved_hidden` — a setting of a call hides that of the client.
* `SeriesClient.Client.write_eitherLevel` — what this means for a write.

## Design

The settings are taken one by one in the plan of a write, and all are resolved alike. Here they are
values of a type, so that what moving one of them does to the other four is said once.
-/

namespace SeriesClient

/-! ## The settings -/

/-- The settings that can be given with a write or for a client. -/
inductive WriteSetting where
  /-- The database. -/
  | database
  /-- The unit of timestamps. -/
  | precision
  /-- The size in bytes from which bodies are compressed. -/
  | gzipThreshold
  /-- Whether a write returns before it is durable. -/
  | noSync
  /-- Tags of all points. -/
  | defaultTags
  deriving DecidableEq

namespace WriteSetting

/-- The name of a setting among those of a write. -/
def callName : WriteSetting → String
  | database => "database"
  | precision => "precision"
  | gzipThreshold => "gzip_threshold"
  | noSync => "no_sync"
  | defaultTags => "default_tags"

/-- The name of a setting among those of a client. -/
def clientName : WriteSetting → String
  | database => "database"
  | precision => "write_precision"
  | gzipThreshold => "gzip_threshold"
  | noSync => "write_no_sync"
  | defaultTags => "default_tags"

/-- A setting as it is given with a write. -/
def ofCall (o : WriteOptions) : WriteSetting → Value
  | database => o.database
  | precision => o.precision
  | gzipThreshold => o.gzipThreshold
  | noSync => o.noSync
  | defaultTags => o.defaultTags

/-- A setting as it is given for a client. -/
def ofClient (config : ClientConfig) : WriteSetting → Value
  | database => config.database
  | precision => config.writePrecision
  | gzipThreshold => config.gzipThreshold
  | noSync => config.writeNoSync
  | defaultTags => config.defaultTags

/-- The settings of a write with one of them given. -/
def onCall (s : WriteSetting) (o : WriteOptions) (v : Value) : WriteOptions :=
  match s with
  | database => { o with database := v }
  | precision => { o with precision := v }
  | gzipThreshold => { o with gzipThreshold := v }
  | noSync => { o with noSync := v }
  | defaultTags => { o with defaultTags := v }

/-- The settings of a client with one of them given. -/
def onClient (s : WriteSetting) (config : ClientConfig) (v : Value) : ClientConfig :=
  match s with
  | database => { config with database := v }
  | precision => { config with writePrecision := v }
  | gzipThreshold => { config with gzipThreshold := v }
  | noSync => { config with writeNoSync := v }
  | defaultTags => { config with defaultTags := v }

/-- Whether a value gives a setting, rather than leaving it open. -/
def isSet : WriteSetting → Value → Bool
  | defaultTags, v => v.truthy
  | _, v => !v.isUnset

variable (s t : WriteSetting) (config : ClientConfig) (o : WriteOptions) {u v : Value}

/-- A setting is given with a write by its name. -/
theorem set?_callName (v : Value) : o.set? s.callName v = some (s.onCall o v) := by
  cases s <;> rfl

/-- A setting is given for a client by its name. -/
theorem set?_clientName (v : Value) :
    config.set? s.clientName v = some (s.onClient config v) := by
  cases s <;> rfl

/-- Giving a setting with a write leaves the others alone. -/
lemma ofCall_onCall (v : Value) : t.ofCall (s.onCall o v) = if t = s then v else t.ofCall o := by
  cases s <;> cases t <;> rfl

/-- Giving a setting for a client leaves the others alone. -/
lemma ofClient_onClient (v : Value) :
    t.ofClient (s.onClient config v) = if t = s then v else t.ofClient config := by
  cases s <;> cases t <;> rfl

/-! ## Resolving -/

/-- A value as it is resolved: default tags that are none count as absent. -/
def reading : WriteSetting → Value → Value
  | defaultTags, v => v.orNull
  | _, v => v

/-- What a setting is if neither level gives it. -/
def library : WriteSetting → Value
  | database => .null
  | precision => .precision .nano
  | gzipThreshold => .int 1000
  | noSync => .bool false
  | defaultTags => .dict []

/-- What a setting is for a write. -/
def resolved : Value :=
  resolve (s.reading (s.ofCall o)) (s.reading (s.ofClient config)) s.library

/-- Values that count as true are set, and so are tags if there are any. -/
lemma isUnset_reading (v : Value) : (s.reading v).isUnset = !s.isSet v := by
  have htags : v.orNull.isUnset = !v.truthy := by
    unfold Value.orNull
    split
    · next h =>
      rw [h]
      cases v with
      | null => nomatch h
      | text text =>
        rw [Value.truthy, Bool.not_eq_true'] at h
        exact h
      | _ => rfl
    · next h =>
      rw [Bool.not_eq_true] at h
      rw [h]
      rfl
  cases s with
  | defaultTags => exact htags
  | _ => exact (Bool.not_not _).symm

/-- A setting that is given is not left open by the way it is read. -/
lemma isUnset_reading_of_isSet (hv : s.isSet v = true) : (s.reading v).isUnset = false := by
  rw [isUnset_reading, hv]
  rfl

/-- **A setting is the same from either level.** -/
theorem resolved_moved (hv : s.isSet v = true) (hu : s.isSet u = false) :
    t.resolved config (s.onCall o v) = t.resolved (s.onClient config v) (s.onCall o u) := by
  rw [resolved, resolved, ofCall_onCall, ofCall_onCall, ofClient_onClient]
  by_cases h : t = s
  · subst h
    have hset := t.isUnset_reading_of_isSet hv
    have hunset : (t.reading u).isUnset = true := by
      rw [isUnset_reading, hu]
      rfl
    simp only [if_true, resolve, hset, hunset, Bool.not_true, Bool.not_false,
      Bool.false_eq_true, if_false]
  · simp only [if_neg h]

/-- **A setting of a call hides that of the client.** -/
theorem resolved_hidden (hv : s.isSet v = true) (w : Value) :
    t.resolved (s.onClient config w) (s.onCall o v) = t.resolved config (s.onCall o v) := by
  rw [resolved, resolved, ofCall_onCall, ofClient_onClient]
  by_cases h : t = s
  · subst h
    simp only [if_true, resolve_of_set (t.isUnset_reading_of_isSet hv)]
  · simp only [if_neg h]

end WriteSetting

/-! ## Writes -/

/-- **A write is planned from its settings as they are resolved**, its header fields and the
organization of the client. -/
theorem WritePlan.ofEntries_congr {config config' : ClientConfig} {o o' : WriteOptions}
    (h : ∀ s : WriteSetting, s.resolved config o = s.resolved config' o')
    (hheaders : o.headers = o'.headers) (horganization : config.organization = config'.organization)
    (data : Entries) : ofEntries config o data = ofEntries config' o' data := by
  have hdatabase : o.databaseOf config = o'.databaseOf config' := h .database
  have hgzip : o.gzipThresholdOf config = o'.gzipThresholdOf config' := h .gzipThreshold
  have hsync : o.noSyncOf config = o'.noSyncOf config' := h .noSync
  have hprecision : o.precisionOf config = o'.precisionOf config' :=
    congrArg Precision.ofValue (h .precision)
  have htags : o.defaultTagsOf config = o'.defaultTagsOf config' :=
    congrArg Value.toMap (h .defaultTags)
  have hcall : o.headersOf = o'.headersOf := congrArg Value.toMap hheaders
  simp only [ofEntries, hdatabase, hgzip, hsync, hprecision, htags, hcall, horganization]

namespace Client

/-- A client with one setting changed. -/
def reconfigured (c : Client) (s : WriteSetting) (v : Value) : Client :=
  { c with config := s.onClient c.config v }

/-- A client made with a setting is the one made without it, with the setting changed: neither what
it sends with all requests nor what it sends with all queries depends on it. -/
lemma ofConfig_onClient (s : WriteSetting) (config : ClientConfig) (v : Value)
    (files : List String) :
    ofConfig (s.onClient config v) files = (ofConfig config files).map (·.reconfigured s v) := by
  have hvalidate : (s.onClient config v).validate = config.validate := by cases s <;> rfl
  have hsession : Session.ofConfig (s.onClient config v) files = Session.ofConfig config files := by
    cases s <;> rfl
  have hqueries : CallHeaders.ofConfig (s.onClient config v) = CallHeaders.ofConfig config := by
    cases s <;> rfl
  rw [ofConfig, ofConfig, hvalidate, hsession, hqueries]
  rcases config.validate with _ | _
  · rfl
  · rcases Session.ofConfig config files with _ | _
    · rfl
    · rcases CallHeaders.ofConfig config with _ | _ <;> rfl

section Write

variable (c c' : Client) {o o' : WriteOptions}

/-- Two clients with the same connections write the same if they plan the same. -/
lemma write_congr (hclosed : c.closed = c'.closed) (hsession : c.session = c'.session)
    {data : Entries}
    (hplan : WritePlan.ofEntries c.config o data = WritePlan.ofEntries c'.config o' data)
    (net : Network) : c.write o data net = c'.write o' data net := by
  simp only [write, checkOpen, send, hclosed, hsession, hplan]

/-- An entry that may be absent is written like others, or not at all. -/
lemma writeOne_congr {net : Network}
    (h : ∀ data, c.write o data net = c'.write o' data net)
    (entry : Entry) : c.writeOne o entry net = c'.writeOne o' entry net := by
  unfold writeOne
  split
  · rfl
  · exact h _

end Write

/-- **A setting works the same at either level.** A setting that is given with a write has the
effect that it has if the client is made with it and the write leaves it open: the same request is
sent, with the same answer, or the write fails alike. And what the client has for a setting that is
given with a write has no effect.

**Proof sketch.** The resolved settings are the same, so the plans of the writes are. -/
theorem write_eitherLevel (s : WriteSetting) {v u : Value} (hv : s.isSet v = true)
    (hu : s.isSet u = false) :
    (∀ config files, ofConfig (s.onClient config v) files =
      (ofConfig config files).map (·.reconfigured s v)) ∧
    ∀ (c : Client) (o : WriteOptions) (net : Network),
      (∀ data, c.write (s.onCall o v) data net =
        (c.reconfigured s v).write (s.onCall o u) data net) ∧
      (∀ entry, c.writeOne (s.onCall o v) entry net =
        (c.reconfigured s v).writeOne (s.onCall o u) entry net) ∧
      (∀ w data, (c.reconfigured s w).write (s.onCall o v) data net =
        c.write (s.onCall o v) data net) ∧
      (∀ w entry, (c.reconfigured s w).writeOne (s.onCall o v) entry net =
        c.writeOne (s.onCall o v) entry net) := by
  refine ⟨fun config files => ofConfig_onClient s config v files, fun c o net => ?_⟩
  have hmoved : ∀ data, c.write (s.onCall o v) data net =
      (c.reconfigured s v).write (s.onCall o u) data net := fun data => by
    have hplan : WritePlan.ofEntries c.config (s.onCall o v) data =
        WritePlan.ofEntries (c.reconfigured s v).config (s.onCall o u) data := by
      refine WritePlan.ofEntries_congr (fun t => s.resolved_moved t c.config o hv hu) ?_ ?_ data
      · cases s <;> rfl
      · cases s <;> rfl
    exact write_congr c (c.reconfigured s v) rfl rfl hplan net
  have hhidden : ∀ w data, (c.reconfigured s w).write (s.onCall o v) data net =
      c.write (s.onCall o v) data net := fun w data => by
    have hplan : WritePlan.ofEntries (c.reconfigured s w).config (s.onCall o v) data =
        WritePlan.ofEntries c.config (s.onCall o v) data := by
      refine WritePlan.ofEntries_congr (fun t => s.resolved_hidden t c.config o hv w) rfl ?_ data
      cases s <;> rfl
    exact write_congr (c.reconfigured s w) c rfl rfl hplan net
  exact ⟨hmoved, writeOne_congr _ _ hmoved, hhidden, fun w => writeOne_congr _ _ (hhidden w)⟩

/-- A client whose writes return before they are durable. -/
def hastyClient : Client :=
  ⟨{ host := .text "http://h", database := .text "d", writeNoSync := .bool true },
    ⟨Address.ofText "http://h", [], false⟩, .empty, false, false⟩

/-- Falsehood is a setting: with it, a write waits although the client does not. -/
theorem write_eitherLevel_falseNoSync :
    let data : Entries := .many [.raw (.text "m f=1i")]
    let net : Network := ⟨[], [], none, [], []⟩
    WriteSetting.noSync.isSet (.bool false) = true ∧ WriteSetting.noSync.isSet .null = false ∧
      hastyClient.write { noSync := .bool false } data net =
        (hastyClient.reconfigured .noSync (.bool false)).write {} data net ∧
      ∃ request, (hastyClient.write { noSync := .bool false } data net).2.events =
        [.http request] ∧ request.path = "/api/v2/write" := by
  intro data net
  refine ⟨rfl, rfl, ?_, _, by with_unfolding_all rfl, ?_⟩
  · exact ((write_eitherLevel .noSync (v := .bool false) (u := .null) rfl rfl).2 hastyClient {}
      net).1 data
  · with_unfolding_all rfl

end Client

end SeriesClient
