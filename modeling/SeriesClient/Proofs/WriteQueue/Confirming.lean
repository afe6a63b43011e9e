import SeriesClient.Proofs.Client.Delivering
import SeriesClient.Proofs.WriteQueue.Failing
import SeriesClient.WriteQueue.Dispatch

set_option relaxedAutoImplicit false
set_option autoImplicit false

/-!
# What a confirmation is worth

A point is confirmed once the write of its chunk has succeeded. So a line for it was in the body of
a request whose reply told of success, unless it is a point that has no line: that one is confirmed
all the same, even if no request was sent at all.

## Main definitions

* `SeriesClient.requestCount` — how many requests have been sent.
* `SeriesClient.Delivered` — the server has received a line for an entry.
* `SeriesClient.Outlet.Dispatches` — an outlet that writes by a client, with any callbacks.
* `SeriesClient.Dispatch.Faithful` — what is known of the record of a queue at any time.
* `SeriesClient.SharedQueue.Confirms` — what is confirmed, and what is not.

## Main results

* `SeriesClient.Dispatch.Faithful.write` — what an attempt to write adds to the record.
* `SeriesClient.Dispatch.Faithful.step` — no step of the writer breaks what is known.
* `SeriesClient.SharedQueue.Runs.confirms` — what is confirmed in any run.

## Design

Replies are used up in order, so the reply to a request is found by the number of requests that
were sent before it.
-/

namespace SeriesClient

/-! ## The record -/

/-- The request of an entry of the record, if one was sent. -/
def QueueEvent.request? : QueueEvent → Option Request
  | sent (.http request) => some request
  | _ => none

/-- How many requests have been sent. -/
def requestCount (events : List QueueEvent) : Nat :=
  (events.filterMap QueueEvent.request?).length

/-- The requests of two records are those of each. -/
lemma requestCount_append (events added : List QueueEvent) :
    requestCount (events ++ added) = requestCount events + requestCount added := by
  simp [requestCount]

/-- The server has received a line for an entry: there was a request with it, and the reply told of
success. -/
def Delivered (config : ClientConfig) (script : List Reply) (events : List QueueEvent)
    (e : Entry) : Prop :=
  ∃ database before request after, events = before ++ .sent (.http request) :: after ∧
    request.method = "POST" ∧
    (script.getD (requestCount before) Network.noContent).isSuccess = true ∧
    request.Carries config { database } e

/-- An entry has been delivered, or has no line. -/
def Warranted (config : ClientConfig) (script : List Reply) (events : List QueueEvent)
    (e : Entry) : Prop :=
  e.IsBlank ∨ Delivered config script events e

/-- What has been delivered stays delivered. -/
lemma Warranted.append {config : ClientConfig} {script : List Reply} {events : List QueueEvent}
    {e : Entry} (h : Warranted config script events e) (added : List QueueEvent) :
    Warranted config script (events ++ added) e := by
  refine h.imp_right ?_
  rintro ⟨database, before, request, after, rfl, hrest⟩
  exact ⟨database, before, request, after ++ added, by simp, hrest⟩

/-! ## Outlets -/

/-- An outlet that writes and pauses like that of a client, and keeps the same record. What its
callbacks come to does not matter. -/
structure Outlet.Dispatches (o : Outlet Dispatch Value Entry Value) : Prop where
  /-- Points are written by the client. -/
  write_eq : o.write = Dispatch.write
  /-- The record tells of every confirmation. -/
  confirm_eq : ∀ point cookie d, (o.confirm point cookie d).2 = (Dispatch.confirm point cookie d).2
  /-- The record tells of everything that is dropped. -/
  drop_eq : ∀ database points fault d,
    (o.drop database points fault d).2 = (Dispatch.drop database points fault d).2
  /-- Pauses are those of the record. -/
  pause_eq : o.pause = Dispatch.pause

/-- The outlet whose callbacks return is one of them. -/
lemma Dispatch.dispatches_outlet : outlet.Dispatches :=
  ⟨rfl, fun _ _ _ => rfl, fun _ _ _ _ => rfl, rfl⟩

/-- The points of a chunk that was written and that have not been confirmed yet. -/
def WriterPhase.unconfirmed {δ α κ : Type} : WriterPhase δ α κ → List (α × κ)
  | confirming points _ => points
  | _ => []

/-- Before a chunk is written, there is nothing to confirm. -/
@[simp]
lemma WriterPhase.unconfirmed_ofChunks {δ α κ : Type} (chunks : List (Chunk δ α κ)) :
    (ofChunks chunks).unconfirmed = [] := by
  cases chunks <;> rfl

namespace Dispatch

/-- What is known at any time of the record of a queue that began with some state: which replies
are left, and that the server has received what is confirmed, or is about to be. -/
structure Faithful (start d : Dispatch) (unconfirmed : List (Entry × Value)) : Prop where
  /-- The client is the same. -/
  client_eq : d.client = start.client
  /-- Everything that was sent is in the record. -/
  collected : d.network.events = []
  /-- Each request has taken one reply. -/
  replies_eq : d.network.replies = start.network.replies.drop (requestCount d.events)
  /-- What was confirmed had been delivered by then, or has no line. -/
  confirmed : ∀ events point cookie, events ++ [.confirmed point cookie] <+: d.events →
    Warranted start.client.config start.network.replies events point
  /-- What is about to be confirmed has been delivered, or has no line. -/
  unconfirmed : ∀ i ∈ unconfirmed,
    Warranted start.client.config start.network.replies d.events i.1

namespace Faithful

variable {start d d' : Dispatch} {unconfirmed : List (Entry × Value)}

/-- A record that has just begun. -/
lemma begin (hnetwork : d.network.events = []) (hevents : d.events = []) :
    Faithful d d [] := by
  refine ⟨rfl, hnetwork, by rw [hevents]; rfl, fun events point cookie h => ?_, nofun⟩
  rw [hevents] at h
  simp at h

/-- A change that sends and records nothing breaks nothing. -/
lemma keep (h : Faithful start d unconfirmed) (hclient : d'.client = d.client)
    (hcollected : d'.network.events = d.network.events)
    (hreplies : d'.network.replies = d.network.replies) (hevents : d'.events = d.events) :
    Faithful start d' unconfirmed := by
  refine ⟨hclient.trans h.client_eq, hcollected.trans h.collected, ?_, ?_, ?_⟩
  · rw [hreplies, hevents, h.replies_eq]
  · rw [hevents]
    exact h.confirmed
  · rw [hevents]
    exact h.unconfirmed

/-- **One more entry of the record** breaks nothing if a request takes the next reply, and if only
such a point is confirmed as has been delivered or has no line. -/
lemma add (h : Faithful start d unconfirmed) (e : QueueEvent)
    (hevents : d'.events = d.events ++ [e]) (hclient : d'.client = d.client)
    (hcollected : d'.network.events = [])
    (hreplies : d'.network.replies = d.network.replies.drop (requestCount [e]))
    (hconfirmed : ∀ point cookie, e = .confirmed point cookie →
      Warranted start.client.config start.network.replies d.events point) :
    Faithful start d' unconfirmed := by
  refine ⟨hclient.trans h.client_eq, hcollected, ?_, fun events point cookie hprefix => ?_,
    fun i hi => ?_⟩
  · rw [hreplies, h.replies_eq, List.drop_drop, hevents, requestCount_append]
  · rw [hevents] at hprefix
    rcases List.prefix_concat_iff.mp hprefix with hlast | hearlier
    · obtain ⟨rfl, he⟩ := List.append_inj' hlast rfl
      exact hconfirmed point cookie (List.cons.inj he).1.symm
    · exact h.confirmed events point cookie hearlier
  · rw [hevents]
    exact (h.unconfirmed i hi).append [e]

/-- Other points may be about to be confirmed, if they have been delivered or have no line. -/
lemma expect (h : Faithful start d unconfirmed) {unconfirmed' : List (Entry × Value)}
    (hwarranted : ∀ i ∈ unconfirmed',
      Warranted start.client.config start.network.replies d.events i.1) :
    Faithful start d unconfirmed' :=
  ⟨h.client_eq, h.collected, h.replies_eq, h.confirmed, hwarranted⟩

/-- There may be nothing to confirm. -/
lemma forget (h : Faithful start d unconfirmed) : Faithful start d [] :=
  h.expect nofun

/-- The next reply is the one at the number of requests so far. -/
lemma reply_eq (h : Faithful start d unconfirmed) :
    d.network.reply = start.network.replies.getD (requestCount d.events) Network.noContent := by
  rw [Network.reply, h.replies_eq, List.headD_eq_head?_getD, List.head?_drop,
    List.getD_eq_getElem?_getD]

/-- **What an attempt to write adds to the record.** If it succeeds, each point has been delivered
or has no line.

**Proof sketch.** The attempt sends nothing or one request (`Client.write_cases`), whose reply is
that at the number of requests so far. -/
theorem write (h : Faithful start d unconfirmed) (database : Value) (points : List Entry) :
    Faithful start (Dispatch.write database points d).2 unconfirmed ∧
      ((Dispatch.write database points d).1 = .ok () → ∀ point ∈ points,
        Warranted start.client.config start.network.replies
          (Dispatch.write database points d).2.events point) := by
  have hresult : (Dispatch.write database points d).1 =
      (d.client.write { database } (.many points) d.network).1 := rfl
  have hstate : (Dispatch.write database points d).2 = collect
      { d with network := (d.client.write { database } (.many points) d.network).2 } := rfl
  rw [hresult, hstate]
  have hdata : (Entries.many points).toList = .ok points := rfl
  rcases d.client.write_cases { database } d.network hdata with
    ⟨notices, hnetwork, hblank⟩ | ⟨request, notices, hnetwork, hpost, hsuccess⟩
  · rw [hnetwork]
    refine ⟨h.keep rfl h.collected.symm rfl ?_,
      fun hok point hpoint => .inl (hblank hok point hpoint)⟩
    simp [collect, h.collected]
  · rw [hnetwork]
    have hevents : (collect { d with network := d.network.sent request notices }).events =
        d.events ++ [.sent (.http request)] := by
      simp [collect, Network.sent, h.collected]
    refine ⟨h.add (.sent (.http request)) hevents rfl rfl List.drop_one.symm (by simp),
      fun hok point hpoint => ?_⟩
    obtain ⟨hreply, hcarries⟩ := hsuccess hok
    rw [hevents]
    refine (hcarries point hpoint).imp_right fun hcarries => ?_
    rw [h.reply_eq] at hreply
    rw [h.client_eq] at hcarries
    exact ⟨database, d.events, request, [], rfl, hpost, hreply, hcarries⟩

/-- A point that has been delivered, or has no line, may be confirmed. -/
lemma confirm (h : Faithful start d unconfirmed) {point : Entry} (cookie : Value)
    (hwarranted : Warranted start.client.config start.network.replies d.events point) :
    Faithful start (Dispatch.confirm point cookie d).2 unconfirmed := by
  unfold Dispatch.confirm
  split
  · refine h.add (.confirmed point cookie) rfl rfl h.collected rfl fun point' cookie' he => ?_
    obtain ⟨rfl, -⟩ := QueueEvent.confirmed.inj he
    exact hwarranted
  · exact h

/-- Dropping points confirms nothing. -/
lemma drop (h : Faithful start d unconfirmed) (database : Value) (points : List Entry)
    (fault : Fault) : Faithful start (Dispatch.drop database points fault d).2 unconfirmed := by
  unfold Dispatch.drop
  dsimp only
  split
  · exact h.add (.dropped points fault) rfl rfl h.collected rfl nofun
  · exact h.keep rfl rfl rfl rfl

/-- A pause confirms nothing. -/
lemma pause (h : Faithful start d unconfirmed) (attempt : Nat) (fault : Fault) (delay : Value) :
    Faithful start (Dispatch.pause attempt fault delay d).2 unconfirmed :=
  h.add (.pause delay) rfl rfl h.collected rfl nofun

variable {o : Outlet Dispatch Value Entry Value} (ho : o.Dispatches)
  {q : WriteQueue Value Entry Value}

include ho

/-- Dropping a chunk breaks nothing. -/
lemma discard (h : Faithful start d unconfirmed) (chunk : Chunk Value Entry Value)
    (fault : Fault) (rest : List (Chunk Value Entry Value)) :
    Faithful start (q.discard o chunk fault rest d).2
      (q.discard o chunk fault rest d).1.phase.unconfirmed := by
  have hdrop := (h.drop chunk.database chunk.points fault).forget
  rw [← ho.drop_eq] at hdrop
  unfold WriteQueue.discard
  split
  · next hresult =>
    rw [hresult] at hdrop
    rw [WriterPhase.unconfirmed_ofChunks]
    exact hdrop
  · next hresult =>
    rw [hresult] at hdrop
    exact hdrop

/-- **No step of the writer breaks what is known of the record**, whatever its callbacks come to.

**Proof sketch.** By the phase of the writer. Points come to be confirmed only by an attempt that
succeeds (`Faithful.write`), and are then confirmed one after the other. -/
theorem step (h : Faithful start d q.phase.unconfirmed) :
    Faithful start (q.step o d).2 (q.step o d).1.phase.unconfirmed := by
  cases hphase : q.phase with
  | idle =>
    have htaken : q.take.phase.unconfirmed = [] := by
      unfold WriteQueue.take
      dsimp only
      split
      · exact WriterPhase.unconfirmed_ofChunks _
      · rfl
    simp only [WriteQueue.step, hphase]
    split
    · rw [htaken]
      exact h.forget
    · split
      · exact h
      · exact h.forget
  | attempting retries chunk rest =>
    obtain ⟨hwrite, hwarranted⟩ := h.write chunk.database chunk.points
    simp only [WriteQueue.step, hphase, WriteQueue.attempt, ho.write_eq, ho.pause_eq]
    rcases hresult : Dispatch.write chunk.database chunk.points d with ⟨fault | _, d'⟩
    · rw [hresult] at hwrite
      simp only
      split
      · exact hwrite.forget
      · exact hwrite.discard ho chunk fault rest
      · exact (hwrite.pause _ _ _).forget
    · rw [hresult] at hwrite hwarranted
      exact hwrite.expect fun i hi => hwarranted rfl i.1 (List.of_mem_zip hi).1
  | pausing retries chunk fault rest =>
    simp only [WriteQueue.step, hphase]
    split
    · exact h.discard ho chunk fault rest
    · exact h.forget
  | confirming left rest =>
    cases left with
    | nil =>
      simp only [WriteQueue.step, hphase, WriterPhase.unconfirmed_ofChunks]
      exact h.forget
    | cons i left =>
      rw [hphase] at h
      have hconfirm := h.confirm i.2 (h.unconfirmed i List.mem_cons_self)
      rw [← ho.confirm_eq] at hconfirm
      simp only [WriteQueue.step, hphase]
      split
      · next hresult =>
        rw [hresult] at hconfirm
        exact hconfirm.expect fun i' hi' => hconfirm.unconfirmed i' (List.mem_cons_of_mem i hi')
      · next hresult =>
        rw [hresult] at hconfirm
        exact hconfirm.forget
  | failed =>
    simp only [WriteQueue.step, hphase]
    exact h.forget
  | finished =>
    simp only [WriteQueue.step, hphase]
    exact h.forget

end Faithful

end Dispatch

/-! ## Runs -/

namespace SharedQueue

variable {o : Outlet Dispatch Value Entry Value} (ho : o.Dispatches) {start : Dispatch}
  {s : SharedQueue Dispatch Value Entry Value}

/-- What is known of the record of a queue. -/
def IsFaithful (start : Dispatch) (s : SharedQueue Dispatch Value Entry Value) : Prop :=
  Dispatch.Faithful start s.world s.queue.phase.unconfirmed

include ho

/-- No action of a thread breaks what is known of the record. -/
lemma IsFaithful.step (h : s.IsFaithful start) (a : Action Value Entry Value) :
    (s.step o a).IsFaithful start := by
  cases a with
  | append database items =>
    simp only [SharedQueue.step, append, WriteQueue.accept]
    by_cases hopen : s.queue.running = true
    · rw [if_pos hopen]
      exact h
    · rw [if_neg hopen]
      exact h
  | write elapsed =>
    have hadvance : (s.advance o).IsFaithful start := Dispatch.Faithful.step ho h
    simp only [SharedQueue.step, writerStep]
    split
    · split
      · exact h
      · split
        · exact hadvance
        · split
          · exact Dispatch.Faithful.forget h
          · split
            · exact hadvance
            · exact h
    · exact h
    · exact h
    · exact hadvance
  | beginFlush | endFlush | refuse | abandon | join =>
    simp only [SharedQueue.step]
    split <;> exact h

/-- **What is known of the record holds after any run.** -/
lemma Runs.isFaithful {settings : QueueSettings} {accepted : List (Value × List Entry)}
    (hs : Runs o settings start accepted s) (hnetwork : start.network.events = [])
    (hevents : start.events = []) : s.IsFaithful start := by
  induction hs with
  | new => exact .begin hnetwork hevents
  | @offer accepted s queue h database points cookies haccept ih =>
    simp only [WriteQueue.accept] at haccept
    split at haccept
    · obtain rfl := Except.ok.inj haccept
      exact ih
    · cases haccept
  | step _ a ha ih => exact ih.step ho a

/-- The writer goes on with a chunk that was written by confirming its points one after the other,
as long as the callback returns. -/
lemma foldl_step_of_confirming (hreturns : o.CallbacksReturn)
    {left : List (Entry × Value)} {rest : List (Chunk Value Entry Value)}
    (hphase : s.queue.phase = .confirming left rest) (hconfirms : s.world.confirms = true) :
    ((List.replicate left.length (.write true)).foldl (step o) s).world.events =
      s.world.events ++ left.map fun i => .confirmed i.1 i.2 := by
  induction left generalizing s with
  | nil => exact (List.append_nil _).symm
  | cons i left ih =>
    have hresult : o.confirm i.1 i.2 s.world =
        (.ok (), s.world.record (.confirmed i.1 i.2)) := by
      refine Prod.ext (hreturns.confirm i.1 i.2 s.world) ((ho.confirm_eq i.1 i.2 s.world).trans ?_)
      rw [Dispatch.confirm, if_pos hconfirms]
    have hstep : s.step o (.write true) = { s with
        queue := { s.queue with phase := .confirming left rest }
        world := s.world.record (.confirmed i.1 i.2) } := by
      simp only [step, writerStep, hphase, advance, WriteQueue.step, hresult]
    rw [List.length_cons, List.replicate_succ, List.foldl_cons, hstep]
    rw [ih (s := { s with
        queue := { s.queue with phase := .confirming left rest }
        world := s.world.record (.confirmed i.1 i.2) }) rfl hconfirms]
    exact List.append_assoc _ [_] _

/-- What is confirmed, and what is not. -/
structure Confirms (o : Outlet Dispatch Value Entry Value) (start : Dispatch)
    (s : SharedQueue Dispatch Value Entry Value) : Prop where
  /-- What was confirmed had been delivered by then, or has no line. -/
  warranted : ∀ events point cookie, events ++ [.confirmed point cookie] <+: s.world.events →
    Warranted start.client.config start.network.replies events point
  /-- If an attempt to write a chunk succeeds, all of its points that have a cookie are confirmed
  next, in order and as far as the callback returns. It does not matter whether they have lines. -/
  complete : ∀ retries chunk rest, s.queue.phase = .attempting retries chunk rest →
    (Dispatch.write chunk.database chunk.points s.world).1 = .ok () → o.CallbacksReturn →
      s.world.confirms = true →
        ((List.replicate (chunk.points.zip chunk.cookies).length (.write true)).foldl (step o)
          (s.step o (.write true))).world.events =
            (Dispatch.write chunk.database chunk.points s.world).2.events ++
              (chunk.points.zip chunk.cookies).map fun i => .confirmed i.1 i.2

/-- **What is confirmed in any run** had been delivered by then: a line for it was in the body of a
request, and the reply told of success. The only exceptions are points that have no line. They are
confirmed with the points that they are written with.

**Proof sketch.** The record is faithful at first and after every step (`Runs.isFaithful`), since
points come to be confirmed only when the write of their chunk has succeeded
(`Dispatch.Faithful.step`). -/
theorem Runs.confirms {settings : QueueSettings} {accepted : List (Value × List Entry)}
    (hs : Runs o settings start accepted s) (hnetwork : start.network.events = [])
    (hevents : start.events = []) : Confirms o start s := by
  refine ⟨(hs.isFaithful ho hnetwork hevents).confirmed,
    fun retries chunk rest hphase hwrite hreturns hconfirms => ?_⟩
  rcases hresult : Dispatch.write chunk.database chunk.points s.world with ⟨result, world⟩
  rw [hresult] at hwrite
  obtain rfl : result = .ok () := hwrite
  have hstep : s.step o (.write true) = { s with
      queue := { s.queue with phase := .confirming (chunk.points.zip chunk.cookies) rest }
      world } := by
    simp only [SharedQueue.step, writerStep, hphase, advance, WriteQueue.step, WriteQueue.attempt,
      ho.write_eq, hresult]
  -- an attempt leaves the callback as it is
  have hkeeps : s.world.confirms = world.confirms :=
    congrArg (fun attempt => attempt.2.confirms) hresult
  rw [hstep]
  exact foldl_step_of_confirming ho hreturns rfl (hkeeps.symm.trans hconfirms)

omit ho

/-- A client that writes queued points, of which nothing has been sent yet. -/
def siteDispatch : Dispatch :=
  ⟨Client.siteClient, ⟨[.response ⟨204, [], []⟩], [], none, [], []⟩, [], 0, none, true, false⟩

/-- A queue with one entry, after its writer has taken it. -/
def takenUp (e : Entry) : SharedQueue Dispatch Value Entry Value :=
  let q := (WriteQueue.new {} : WriteQueue Value Entry Value).store (.text "d") [e] [.null]
  step Dispatch.outlet { SharedQueue.new {} siteDispatch with queue := q } (.write true)

/-- A queue with one entry, after its writer has taken, written and confirmed it. -/
def workedOff (e : Entry) : SharedQueue Dispatch Value Entry Value :=
  [Action.write true, .write true].foldl (step Dispatch.outlet) (takenUp e)

/-- The beginning of the run of one entry. -/
lemma runs_takenUp (e : Entry) :
    Runs Dispatch.outlet {} siteDispatch [(.text "d", [e])] (takenUp e) := by
  have hoffer : Runs Dispatch.outlet {} siteDispatch [(.text "d", [e])]
      { SharedQueue.new {} siteDispatch with
        queue := (WriteQueue.new {}).store (Value.text "d") [e] [Value.null] } :=
    Runs.new.offer (Value.text "d") [e] [Value.null] rfl
  exact hoffer.foldl [.write true] (by simp)

/-- The run of one entry. -/
lemma runs_workedOff (e : Entry) :
    Runs Dispatch.outlet {} siteDispatch [(.text "d", [e])] (workedOff e) :=
  (runs_takenUp e).foldl [.write true, .write true] (by simp)

/-- A line of the caller's own. -/
def openDoor : Entry := .raw (.text "door open=t")

/-- A line is confirmed once it has been sent. -/
theorem confirms_openDoor : ∃ request,
    (workedOff openDoor).world.events = [.sent (.http request), .confirmed openDoor .null] ∧
      Delivered siteDispatch.client.config siteDispatch.network.replies [.sent (.http request)]
        openDoor := by
  obtain ⟨request, hsent⟩ : ∃ request,
      (Dispatch.write (.text "d") [openDoor] (takenUp openDoor).world).2.events =
        [.sent (.http request)] := ⟨_, rfl⟩
  have hevents : (workedOff openDoor).world.events =
      [.sent (.http request), .confirmed openDoor .null] := by
    have hreturns : Dispatch.outlet.CallbacksReturn := ⟨fun _ _ _ => rfl, fun _ _ _ _ => rfl⟩
    have hcomplete :=
      ((runs_takenUp openDoor).confirms Dispatch.dispatches_outlet rfl rfl).complete 0
        ⟨.text "d", [openDoor], [.null]⟩ [] rfl rfl hreturns rfl
    rw [hsent] at hcomplete
    exact hcomplete
  have hconfirmed : [.sent (.http request)] ++ [QueueEvent.confirmed openDoor .null] <+:
      (workedOff openDoor).world.events := by
    rw [hevents]
    exact List.prefix_refl _
  have hwarranted :=
    ((runs_workedOff openDoor).confirms Dispatch.dispatches_outlet rfl rfl).warranted _ _ _
      hconfirmed
  have hblank : ¬ openDoor.IsBlank := by simp [openDoor, Entry.IsBlank, Value.plain_text]
  exact ⟨request, hevents, hwarranted.resolve_left hblank⟩

/-- A point without fields. -/
def blankPoint : Entry := .point ⟨PointValues.new (.text "m")⟩

/-- **A point that no request had a line for is confirmed**: it has no fields, and nothing is
sent. -/
theorem not_delivered_blankPoint :
    Runs Dispatch.outlet {} siteDispatch [(.text "d", [blankPoint])] (workedOff blankPoint) ∧
      (workedOff blankPoint).world.events = [.confirmed blankPoint .null] ∧
      ¬ Delivered siteDispatch.client.config siteDispatch.network.replies
        (workedOff blankPoint).world.events blankPoint := by
  have hevents : (workedOff blankPoint).world.events = [.confirmed blankPoint .null] := rfl
  refine ⟨runs_workedOff blankPoint, hevents, ?_⟩
  rintro ⟨database, before, request, after, hsplit, -⟩
  rw [hevents] at hsplit
  have hsent : QueueEvent.sent (.http request) ∈ [QueueEvent.confirmed blankPoint .null] := by
    rw [hsplit]
    simp
  simp at hsent

end SharedQueue

end SeriesClient
