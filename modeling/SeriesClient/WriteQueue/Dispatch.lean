import SeriesClient.Client.Write
import SeriesClient.WriteQueue.Writer

set_option relaxedAutoImplicit false
set_option autoImplicit false

/-!
# Dispatching queued points

The outlet of a queue whose points are written by a client. It keeps a record of what was
sent, of pauses, and of what was told about points.

## Main definitions

* `SeriesClient.QueueEvent` — an entry of the record.
* `SeriesClient.Dispatch` — the client with the record.
* `SeriesClient.Dispatch.outlet` — the outlet of a queue.

## Design

Nobody waits in a pause. One pause can be singled out, by its number, as the one during
which retries are abandoned.
-/

namespace SeriesClient

/-- An entry of the record. -/
inductive QueueEvent where
  /-- Something was sent. -/
  | sent (e : Event)
  /-- The writer paused for some seconds. -/
  | pause (delay : Value)
  /-- A point was confirmed. -/
  | confirmed (point : Entry) (cookie : Value)
  /-- Points were dropped. -/
  | dropped (points : List Entry) (fault : Fault)

/-- A client that writes queued points, with the record. -/
structure Dispatch where
  /-- The client. -/
  client : Client
  /-- What the client sees of the world. -/
  network : Network
  /-- The record. -/
  events : List QueueEvent
  /-- How many pauses there have been. -/
  pauses : Nat
  /-- The number of the pause during which retries are abandoned, if there is one. -/
  interruption : Option Nat
  /-- Whether somebody is told about points that were written. -/
  confirms : Bool
  /-- Whether somebody is told about points that were dropped. -/
  reports : Bool

namespace Dispatch

/-- Adds to the record. -/
def record (d : Dispatch) (e : QueueEvent) : Dispatch := { d with events := d.events ++ [e] }

/-- Leaves a notice. -/
def note (d : Dispatch) (n : Notice) : Dispatch := { d with network := d.network.note n }

/-- Moves what the client sent to the record. -/
def collect (d : Dispatch) : Dispatch :=
  { d with
    events := d.events ++ d.network.events.map .sent
    network := { d.network with events := [] } }

/-- Tries to write points. -/
def write (database : Value) (points : List Entry) (d : Dispatch) :
    Except Fault Unit × Dispatch :=
  let (result, network) := d.client.write { database } (.many points) d.network
  (result, collect { d with network })

/-- Tells that a point was written. -/
def confirm (point : Entry) (cookie : Value) (d : Dispatch) : Except Fault Unit × Dispatch :=
  (.ok (), if d.confirms then d.record (.confirmed point cookie) else d)

/-- Tells that points were dropped. -/
def drop (database : Value) (points : List Entry) (fault : Fault) (d : Dispatch) :
    Except Fault Unit × Dispatch :=
  let d := d.note ⟨.error, "Dropping " ++ toString points.length ++ " points for "
    ++ database.toText ++ ": " ++ fault.message⟩
  (.ok (), if d.reports then d.record (.dropped points fault) else d)

/-- A delay with one digit after the point. -/
def delayText (delay : Value) : String :=
  match delay.toDouble with
  | .ok seconds => String.ofList seconds.tenths
  | .error _ => delay.toText

/-- Waits before the attempt of the given number. -/
def pause (attempt : Nat) (fault : Fault) (delay : Value) (d : Dispatch) : Bool × Dispatch :=
  let d := d.note (.warn ("Write exception (attempt " ++ toString attempt ++ "): " ++ fault.message
    ++ "; retrying in " ++ delayText delay ++ " seconds..."))
  let number := d.pauses + 1
  (d.interruption == some number, { d.record (.pause delay) with pauses := number })

/-- The outlet of a queue. -/
def outlet : Outlet Dispatch Value Entry Value := ⟨write, confirm, drop, pause⟩

end Dispatch

end SeriesClient
