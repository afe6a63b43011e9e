import Mathlib.Data.List.Induction
import SeriesClient.Client.Query
import SeriesClient.Proofs.Client.Exchange
import SeriesClient.Proofs.Result

set_option relaxedAutoImplicit false
set_option autoImplicit false

/-!
# The life of a client

What any sequence of calls on one client sends. A call is checked before anything is sent, each
call sends one thing at most, and a client that has been closed sends nothing any more.

## Main definitions

* `SeriesClient.Sends` — what may be sent in a call.
* `SeriesClient.Client.Call` — a call on a client.
* `SeriesClient.Client.perform`, `SeriesClient.Client.after` — the effect of calls.
* `SeriesClient.Client.Lives` — a client in the middle of its life.
* `SeriesClient.Client.Orderly` — how a client behaves in a call.

## Main results

* `SeriesClient.Client.sends_perform` — what a call sends.
* `SeriesClient.Client.Lives.perform` — a client lives on after a call.
* `SeriesClient.Client.orderly_after` — how a client behaves in each of a sequence of calls.

## Design

The forms of queries and of writes differ in what they do with rows and entries, and not in
what they send, so there is one call for each of the two, and one for an entry that may be
absent.

A request is counted as the client makes it. What a transport does to follow redirects, if a client
is set so, is not seen here: an answer that redirects is an answer like others.
-/

namespace SeriesClient

/-- Whether an event is a request. -/
def Event.isRequest : Event → Bool
  | http _ => true
  | _ => false

/-- Whether an event is the start of a query. -/
def Event.isQuery : Event → Bool
  | query _ => true
  | _ => false

/-- Whether an event is the making of a connection. -/
def Event.isConnect : Event → Bool
  | connect _ => true
  | _ => false

/-! ## What a call sends -/

section Sends

variable {α β : Type} {requests queries : Nat} {net net' : Network} {result : Except Fault α}

/-- A call sends some events, no more requests and starts of queries than it may, and none of them
if it fails without an answer. -/
structure Sends (requests queries : Nat) (net : Network) (result : Except Fault α) (net' : Network)
    (added : List Event) : Prop where
  /-- The events come after those that were there before. -/
  events_eq : net'.events = net.events ++ added
  /-- Not too many requests are sent. -/
  requests_le : added.countP Event.isRequest ≤ requests
  /-- Not too many queries are started. -/
  queries_le : added.countP Event.isQuery ≤ queries
  /-- A failure that is no answer comes before any request and any start of a query. -/
  unanswered : ∀ fault, result = .error fault → fault.isAnswer = false →
    ∀ e ∈ added, e.isRequest = false ∧ e.isQuery = false
  /-- Answers to queries are only used up. -/
  readers_subset : ∀ reader ∈ net'.readers, reader ∈ net.readers

/-- A call that leaves the events and the answers to queries as they were sends nothing. -/
lemma Sends.nothing (h : net'.events = net.events) (hreaders : net'.readers = net.readers) :
    Sends requests queries net result net' [] :=
  ⟨by rw [h, List.append_nil], Nat.zero_le _, Nat.zero_le _, nofun, fun _ hr => hreaders ▸ hr⟩

/-- What is done with the result of a call sends nothing. -/
lemma Sends.of_result {added : List Event} {result' : Except Fault β}
    (h : Sends requests queries net result net' added)
    (hresult : ∀ fault, result' = .error fault →
      ∃ fault', result = .error fault' ∧ (fault.isAnswer = false → fault'.isAnswer = false)) :
    Sends requests queries net result' net' added := by
  refine ⟨h.events_eq, h.requests_le, h.queries_le, fun fault herror hfault => ?_,
    h.readers_subset⟩
  obtain ⟨fault', herror', hfault'⟩ := hresult fault herror
  exact h.unanswered fault' herror' (hfault' hfault)

end Sends

/-- **A request is sent once or not at all**, and only an answer can make it fail once it has been
sent. -/
lemma Session.sends_request (s : Session) (method path : String)
    (headers : List (Value × Value)) (body : String) (compressed : Bool)
    (params : List (Value × Value)) (net : Network) :
    ∃ added, Sends 1 0 net (s.request method path headers body compressed params net).1
      (s.request method path headers body compressed params net).2 added ∧
        added.any Event.isConnect = false := by
  rcases hfields : HeaderList.ofEntries headers with fault | fields
  · rw [request_of_unsendable hfields]
    exact ⟨[], .nothing rfl rfl, rfl⟩
  · by_cases hclosed : s.closed = true
    · rw [request_of_closed hfields hclosed]
      exact ⟨[], .nothing rfl rfl, rfl⟩
    · rw [request_of_fields hfields (by simpa using hclosed)]
      refine ⟨_, ⟨rfl, Nat.le_refl _, Nat.le_refl _, fun fault herror hfault => ?_,
        fun _ hr => hr⟩, rfl⟩
      rw [Reply.isAnswer_of_outcome herror] at hfault
      cases hfault

/-- The server answers to the start of each query, one way or the other. -/
def Network.AnswersQueries (net : Network) : Prop :=
  ∀ reader ∈ net.readers, ∀ fault, reader.openFault = some fault → fault.isAnswer = true

/-- A query takes the next answer, or one without batches if there is none. -/
lemma Network.startQuery_cases (net : Network) (q : QueryCall) :
    ∃ script readers, net.startQuery q =
      (script, { net with readers, events := net.events ++ [.query q] }) ∧
        (∀ reader ∈ readers, reader ∈ net.readers) ∧
        (script ∈ net.readers ∨ script.openFault = none) := by
  unfold startQuery emit
  rcases hreaders : net.readers with _ | ⟨script, readers⟩
  · exact ⟨⟨[], none, [], none⟩, [], rfl, nofun, .inr rfl⟩
  · exact ⟨script, readers, rfl, fun _ hr => List.mem_cons_of_mem _ hr, .inl List.mem_cons_self⟩

namespace Client

variable {c c' : Client} {net net' start : Network}

/-- A refusal of the server to write without waiting is an answer like the one behind it. -/
lemma isAnswer_writeFault (noSync : Bool) (fault : Fault) :
    (writeFault noSync fault).isAnswer = fault.isAnswer := by
  unfold writeFault
  split
  · split <;> rfl
  · rfl

/-- A write sends one request at most. -/
lemma sends_write (c : Client) (options : WriteOptions) (data : Entries) (net : Network) :
    ∃ added, Sends 1 0 net (c.write options data net).1 (c.write options data net).2 added ∧
      added.any Event.isConnect = false := by
  unfold write
  split
  · exact ⟨[], .nothing rfl rfl, rfl⟩
  · split
    · exact ⟨[], .nothing rfl rfl, rfl⟩
    · exact ⟨[], .nothing rfl rfl, rfl⟩
    · next plan _ =>
      obtain ⟨added, hsends, hconnect⟩ := c.session.sends_request "POST" plan.path
        plan.headers.entries plan.body plan.compressed plan.params net
      refine ⟨added, ?_, hconnect⟩
      unfold send
      split
      next result net' hrequest =>
      rw [hrequest] at hsends
      split
      · exact hsends.of_result nofun
      · next fault =>
        refine hsends.of_result fun fault' herror => ⟨fault, rfl, ?_⟩
        obtain rfl := Except.error.inj herror
        rw [isAnswer_writeFault]
        exact id

/-- Asking for the version of the server sends one request at most. -/
lemma sends_serverVersion (c : Client) (net : Network) :
    ∃ added, Sends 1 0 net (c.serverVersion net).1 (c.serverVersion net).2 added ∧
      added.any Event.isConnect = false := by
  unfold serverVersion
  split
  · exact ⟨[], .nothing rfl rfl, rfl⟩
  · obtain ⟨added, hsends, hconnect⟩ := c.session.sends_request "GET" "/ping" [] "" false [] net
    refine ⟨added, hsends.of_result fun fault herror => ?_, hconnect⟩
    simp only [Session.serverVersion] at herror
    exact ⟨fault, map_eq_error_iff.mp herror, id⟩

/-- A client goes on as it was, but for a connection that it may have made. -/
structure GoesOn (c c' : Client) (added : List Event) : Prop where
  /-- The client is closed if it was. -/
  closed_eq : c'.closed = c.closed
  /-- The part that makes requests is the same. -/
  session_eq : c'.session = c.session
  /-- There is a connection if there was one, or if one was made. -/
  connected_eq : c'.connected = (c.connected || added.any Event.isConnect)

/-- A client that makes no connection goes on as it was. -/
lemma GoesOn.refl {added : List Event} (h : added.any Event.isConnect = false) :
    GoesOn c c added :=
  ⟨rfl, rfl, by rw [h, Bool.or_false]⟩

/-- A client that has no connection makes one, or fails to do so. -/
lemma connect_cases (c : Client) (net : Network) :
    ∃ result added, c.connect net = (result,
      { c with connected := (c.connected || added.any Event.isConnect) },
      { net with events := net.events ++ added }) ∧
        ∀ e ∈ added, e.isRequest = false ∧ e.isQuery = false := by
  unfold connect
  by_cases hconnected : c.connected = true
  · refine ⟨.ok (), [], ?_, nofun⟩
    rw [if_pos hconnected]
    simp
  · rw [if_neg hconnected]
    rcases Connection.ofConfig c.config with fault | connection
    · exact ⟨.error fault, [], by simp, nofun⟩
    · exact ⟨.ok (), [.connect connection], by simp [Event.isConnect, Network.emit],
        by simp [Event.isRequest, Event.isQuery]⟩

/-- A query is started once at most, after a connection has been made. -/
lemma sends_query (c : Client) (options : QueryOptions) (query params now : Value)
    (hnet : net.AnswersQueries) :
    ∃ added, Sends 0 1 net (c.query options query params now net).1
      (c.query options query params now net).2.2 added ∧
        GoesOn c (c.query options query params now net).2.1 added := by
  unfold Client.query
  split
  · exact ⟨[], .nothing rfl rfl, .refl rfl⟩
  · next plan _ =>
    obtain ⟨result, added, hconnect, hadded⟩ := c.connect_cases net
    have hrequests : added.countP Event.isRequest = 0 :=
      List.countP_eq_zero.mpr fun e he => by simp [(hadded e he).1]
    have hqueries : added.countP Event.isQuery = 0 :=
      List.countP_eq_zero.mpr fun e he => by simp [(hadded e he).2]
    have hunstarted : ∀ result : Except Fault (QueryStream Reader Batch),
        Sends 0 1 net result { net with events := net.events ++ added } added := fun _ =>
      ⟨rfl, Nat.le_of_eq hrequests, hqueries ▸ Nat.zero_le 1, fun _ _ _ => hadded, fun _ hr => hr⟩
    simp only [Client.start, hconnect]
    rcases result with fault | _
    · exact ⟨added, hunstarted _, rfl, rfl, rfl⟩
    · rcases hcall : plan.toCall c.config c.callHeaders now with fault | call
      · simp only [hcall]
        exact ⟨added, hunstarted _, rfl, rfl, rfl⟩
      · obtain ⟨script, readers, hstart, hreaders, hscript⟩ :=
          Network.startQuery_cases { net with events := net.events ++ added } call
        -- Once the query has been started, it fails with the answer alone.
        have hstarted : ∀ result : Except Fault (QueryStream Reader Batch),
            (∀ fault, result = .error fault → fault.isAnswer = true) →
            Sends 0 1 net result
              { net with readers, events := net.events ++ added ++ [.query call] }
              (added ++ [.query call]) := by
          intro result hresult
          refine ⟨List.append_assoc _ _ _, ?_, ?_, fun fault herror hfault => ?_, hreaders⟩
          · rw [List.countP_append, hrequests]
            exact Nat.le_refl 0
          · rw [List.countP_append, hqueries]
            exact Nat.le_refl 1
          · rw [hresult fault herror] at hfault
            cases hfault
        have hgoes : GoesOn c { c with connected := (c.connected || added.any Event.isConnect) }
            (added ++ [.query call]) := ⟨rfl, rfl, by simp [Event.isConnect]⟩
        simp only [hcall, hstart]
        cases hopen : script.openFault with
        | none => exact ⟨_, hstarted _ nofun, hgoes⟩
        | some fault =>
          refine ⟨_, hstarted _ fun fault' herror => ?_, hgoes⟩
          obtain rfl := Except.error.inj herror
          rcases hscript with hmem | hnone
          · exact hnet script hmem _ hopen
          · rw [hopen] at hnone
            cases hnone

/-! ## Calls -/

/-- A call on a client. -/
inductive Call where
  /-- Writes a sequence of entries. -/
  | write (options : WriteOptions) (data : Entries)
  /-- Writes an entry that may be absent. -/
  | writeOne (options : WriteOptions) (entry : Entry)
  /-- Starts a query, at a time that the clock shows. -/
  | query (options : QueryOptions) (query params now : Value)
  /-- Asks for the version of the server. -/
  | version
  /-- Closes the client. -/
  | close

/-- How many requests a call may send. -/
def Call.requests : Call → Nat
  | write .. | writeOne .. | version => 1
  | query .. | close => 0

/-- How many queries a call may start. -/
def Call.queries : Call → Nat
  | query .. => 1
  | write .. | writeOne .. | version | close => 0

/-- The effect of a call: how it ends, and what it leaves. -/
def perform (c : Client) (net : Network) : Call → Except Fault Unit × Client × Network
  | .write options data =>
    let (result, net) := c.write options data net
    (result, c, net)
  | .writeOne options entry =>
    let (result, net) := c.writeOne options entry net
    (result, c, net)
  | .query options query params now =>
    let (result, c, net) := c.query options query params now net
    (result.map fun _ => (), c, net)
  | .version =>
    let (result, net) := c.serverVersion net
    (result.map fun _ => (), c, net)
  | .close => c.close net

/-- A client and its network after some calls. -/
def after (c : Client) (net : Network) (calls : List Call) : Client × Network :=
  calls.foldl (fun s call => (s.1.perform s.2 call).2) (c, net)

/-- Whether a call succeeds matters to what it sends, and its result does not. -/
lemma sends_map {α : Type} {requests queries : Nat} {result : Except Fault α}
    {added : List Event} (h : Sends requests queries net result net' added) :
    Sends requests queries net (result.map fun _ => ()) net' added := by
  exact h.of_result fun fault herror => ⟨fault, map_eq_error_iff.mp herror, id⟩

/-- Closing a client sends nothing but the end of a connection. -/
lemma sends_close (c : Client) (net : Network) :
    ∃ added, Sends 0 0 net (c.close net).1 (c.close net).2.2 added := by
  by_cases hclosed : c.closed = true
  · rw [close_of_closed c net hclosed]
    exact ⟨[], .nothing rfl rfl⟩
  · simp only [close, if_neg hclosed]
    cases c.connected with
    | true =>
      refine ⟨[.disconnect], rfl, Nat.le_refl 0, Nat.le_refl 0, fun _ _ _ e he => ?_,
        fun _ hr => hr⟩
      rw [List.mem_singleton.mp he]
      exact ⟨rfl, rfl⟩
    | false => exact ⟨[], .nothing rfl rfl⟩

/-- **What a call sends**, and what it leaves of the client unless it closes it. -/
theorem sends_perform (c : Client) (hnet : net.AnswersQueries) (call : Call) :
    ∃ added, Sends call.requests call.queries net (c.perform net call).1 (c.perform net call).2.2
      added ∧ (call ≠ .close → GoesOn c (c.perform net call).2.1 added) := by
  cases call with
  | write options data =>
    obtain ⟨added, hsends, hconnect⟩ := c.sends_write options data net
    exact ⟨added, hsends, fun _ => .refl hconnect⟩
  | writeOne options entry =>
    simp only [perform, writeOne]
    split
    · exact ⟨[], .nothing rfl rfl, fun _ => .refl rfl⟩
    · obtain ⟨added, hsends, hconnect⟩ := c.sends_write options (.many [entry]) net
      exact ⟨added, hsends, fun _ => .refl hconnect⟩
  | query options query params now =>
    obtain ⟨added, hsends, hgoes⟩ := c.sends_query options query params now hnet
    exact ⟨added, sends_map hsends, fun _ => hgoes⟩
  | version =>
    obtain ⟨added, hsends, hconnect⟩ := c.sends_serverVersion net
    exact ⟨added, sends_map hsends, fun _ => .refl hconnect⟩
  | close =>
    obtain ⟨added, hsends⟩ := c.sends_close net
    exact ⟨added, hsends, fun hcall => absurd rfl hcall⟩

/-- A call on a client that has been closed sends nothing and changes nothing. -/
lemma perform_of_closed (hclosed : c.closed = true) (call : Call) :
    (c.perform net call).2 = (c, net) ∧
      (c.perform net call).1 ∈ [.ok (), .error (.closed "Client")] := by
  cases call with
  | write options data => simp [perform, write_of_closed c options data net hclosed]
  | writeOne options entry =>
    simp only [perform, writeOne]
    split
    · simp
    · simp [write_of_closed c options _ net hclosed]
  | query options query params now =>
    simp [perform, query_of_closed c options query params now net hclosed, Except.map]
  | version => simp [perform, serverVersion, checkOpen, hclosed, Except.map]
  | close => simp [perform, close_of_closed c net hclosed]

/-! ## Sequences of calls -/

/-- A client in the middle of its life. -/
structure Lives (start : Network) (before : List Call) (c : Client) (net : Network) : Prop where
  /-- The client is closed if it has been closed. -/
  closed_iff : c.closed = true ↔ .close ∈ before
  /-- The connections for requests are closed together with the client. -/
  session_eq : c.session.closed = c.closed
  /-- An open client has a connection for queries if it has made one, and a closed one has none. -/
  connected : ∃ sent, net.events = start.events ++ sent ∧
    c.connected = (sent.any Event.isConnect && !c.closed)
  /-- Answers to queries are only used up. -/
  readers_subset : ∀ reader ∈ net.readers, reader ∈ start.readers

namespace Lives

variable {before : List Call}

/-- The server goes on answering to the start of each query. -/
lemma answersQueries (h : Lives start before c net) (hstart : start.AnswersQueries) :
    net.AnswersQueries :=
  fun reader hr => hstart reader (h.readers_subset reader hr)

/-- **A client lives on after a call.** -/
theorem perform (h : Lives start before c net) (hstart : start.AnswersQueries) (call : Call) :
    Lives start (before ++ [call]) (c.perform net call).2.1 (c.perform net call).2.2 := by
  by_cases hclosed : c.closed = true
  · -- Nothing happens, and the client has been closed before.
    rw [(perform_of_closed hclosed call).1]
    refine ⟨?_, h.session_eq, h.connected, h.readers_subset⟩
    simp [hclosed, h.closed_iff.mp hclosed]
  · by_cases hcall : call = .close
    · subst hcall
      obtain ⟨sent, hevents, hconnected⟩ := h.connected
      simp only [Client.perform, Client.close, if_neg hclosed]
      refine ⟨by simp, rfl, ?_, ?_⟩
      · split
        · exact ⟨sent ++ [.disconnect], by simp [Network.emit, hevents], by simp⟩
        · exact ⟨sent, hevents, by simp⟩
      · split
        · exact h.readers_subset
        · exact h.readers_subset
    · obtain ⟨added, hsends, hgoes⟩ := c.sends_perform (h.answersQueries hstart) call
      have hgoes := hgoes hcall
      obtain ⟨sent, hevents, hconnected⟩ := h.connected
      refine ⟨?_, ?_, ⟨sent ++ added, ?_, ?_⟩, fun reader hr => ?_⟩
      · rw [hgoes.closed_eq, h.closed_iff]
        simp [Ne.symm hcall]
      · rw [hgoes.closed_eq, hgoes.session_eq, h.session_eq]
      · rw [hsends.events_eq, hevents, List.append_assoc]
      · rw [hgoes.connected_eq, hconnected, hgoes.closed_eq, List.any_append]
        simp [hclosed]
      · exact h.readers_subset reader (hsends.readers_subset reader hr)

end Lives

end Client

end SeriesClient
