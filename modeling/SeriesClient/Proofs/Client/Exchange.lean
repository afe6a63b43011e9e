import Mathlib.Tactic.Lemma
import SeriesClient.Client.Write

set_option relaxedAutoImplicit false
set_option autoImplicit false

/-!
# Requests and what comes of them

A request is put together first, and is sent only if all of its parts can be sent. What comes back
is the only thing that can go wrong after that.

## Main definitions

* `SeriesClient.Fault.isAnswer` — the faults that stand for an answer.
* `SeriesClient.Reply.outcome` — what a reply comes to.
* `SeriesClient.Reply.isSuccess` — whether a reply tells of success.
* `SeriesClient.Network.reply` — the next reply.

## Main results

* `SeriesClient.Session.request_of_fields` — a request that is sent, and its result.
* `SeriesClient.Session.request_of_unsendable`, `SeriesClient.Session.request_of_closed` — a
  request that is not sent.
-/

namespace SeriesClient

/-- Whether a fault stands for an answer, or for one that did not come. -/
def Fault.isAnswer : Fault → Bool
  | wire .. | http .. | noSync .. | redirects _ => true
  | _ => false

/-- What a reply comes to, with the notices about it. -/
def Reply.outcome : Reply → Except Fault Response × List Notice
  | lost kind message =>
    (.error (.wire (if message.isEmpty then kind else message) (some kind)), [])
  | redirects message => (.error (.redirects message), [])
  | response r => r.result

/-- **What goes wrong after a request was sent is an answer.** -/
lemma Reply.isAnswer_of_outcome {reply : Reply} {fault : Fault}
    (h : reply.outcome.1 = .error fault) : fault.isAnswer = true := by
  cases reply with
  | lost kind message =>
    cases h
    rfl
  | redirects message =>
    cases h
    rfl
  | response r =>
    simp only [outcome, Response.result] at h
    split at h
    · cases h
    · cases h
      rfl

/-- Whether a reply is an answer that tells of success. -/
def Reply.isSuccess : Reply → Bool
  | response r => r.isSuccess
  | _ => false

/-- A reply that comes to something tells of success. -/
lemma Reply.isSuccess_of_outcome {reply : Reply} {r : Response}
    (h : reply.outcome.1 = .ok r) : reply.isSuccess = true := by
  cases reply with
  | lost kind message => cases h
  | redirects message => cases h
  | response r' =>
    simp only [outcome, Response.result] at h
    split at h
    · next hsuccess => exact hsuccess
    · cases h

namespace Network

/-- The next reply to a request. -/
def reply (net : Network) : Reply := net.replies.headD noContent

/-- A network after a request, with notices left behind before and after it. -/
def sent (net : Network) (request : Request) (notices : List Notice) : Network :=
  { net with
      replies := net.replies.tail
      events := net.events ++ [.http request]
      notices := net.notices ++ notices }

/-- An exchange takes the next reply. -/
lemma exchange_eq (net : Network) (request : Request) :
    net.exchange request = (net.reply, net.sent request []) := by
  unfold exchange
  cases h : net.replies <;> simp [emit, reply, sent, h]

end Network

namespace Session

variable {s : Session} {method path body : String} {headers params : List (Value × Value)}
  {compressed : Bool} {net : Network} {fields : HeaderList}

/-- **A request that is sent.** What it comes to is up to the next reply alone. -/
theorem request_of_fields (hfields : HeaderList.ofEntries headers = .ok fields)
    (hopen : s.closed = false) :
    s.request method path headers body compressed params net =
      (net.reply.outcome.1, net.sent
        ⟨method.toUpper, s.address.join path, paramEntries (sentParams params),
          HeaderList.override s.headers fields, body, compressed⟩
        (announce method path (sentParams params) :: net.reply.outcome.2)) := by
  have hreply : (net.note (announce method path (sentParams params))).reply = net.reply := rfl
  simp only [request, hfields, hopen, Network.exchange_eq, hreply]
  cases net.reply with
  | lost kind message => simp [Reply.outcome, Network.sent, Network.note]
  | redirects message => simp [Reply.outcome, Network.sent, Network.note]
  | response r => simp [Reply.outcome, Network.sent, Network.note]

/-- A request with header fields that cannot be sent is not sent. -/
theorem request_of_unsendable {fault : Fault}
    (hfields : HeaderList.ofEntries headers = .error fault) :
    s.request method path headers body compressed params net =
      (.error fault, net.note (announce method path (sentParams params))) := by
  simp only [request, hfields]

/-- A session that has been closed sends nothing. -/
theorem request_of_closed (hfields : HeaderList.ofEntries headers = .ok fields)
    (hclosed : s.closed = true) :
    s.request method path headers body compressed params net =
      (.error (.runtime "Cannot send a request, as the client has been closed."),
        net.note (announce method path (sentParams params))) := by
  simp only [request, hfields, hclosed, if_true]

end Session

end SeriesClient
