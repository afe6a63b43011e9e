import SeriesClient.Http.Session
import SeriesClient.Query.CallHeaders

set_option relaxedAutoImplicit false
set_option autoImplicit false

/-!
# Clients

A client of one server. It makes requests at once, and makes the connection for queries
when the first query is made. A closed client does nothing any more.

## Main definitions

* `SeriesClient.Client` — the state of a client.
* `SeriesClient.Client.ofConfig` — the client that a configuration describes.
* `SeriesClient.Client.checkOpen` — refuses calls on a closed client.
* `SeriesClient.Client.close` — closes all connections.
* `SeriesClient.Client.serverVersion` — asks for the version of the server.

## Main results

* `SeriesClient.Client.close_of_closed` — closing again does nothing.
-/

namespace SeriesClient

/-- The state of a client. -/
structure Client where
  /-- The configuration. -/
  config : ClientConfig
  /-- The part that makes requests. -/
  session : Session
  /-- The header fields of all queries. -/
  callHeaders : CallHeaders
  /-- Whether the connection for queries has been made. -/
  connected : Bool
  /-- Whether the client has been closed. -/
  closed : Bool

namespace Client

/-- The client that a configuration describes, where some files exist. -/
def ofConfig (config : ClientConfig) (files : List String) : Except Fault Client := do
  config.validate
  return ⟨config, ← Session.ofConfig config files, ← CallHeaders.ofConfig config, false, false⟩

/-- Refuses calls on a closed client. -/
def checkOpen (c : Client) : Except Fault Unit :=
  if c.closed then .error (.closed "Client") else .ok ()

/-- Closes the connections for requests, and the connection for queries whether or not that
fails. -/
def close (c : Client) (net : Network) : Except Fault Unit × Client × Network :=
  if c.closed then (.ok (), c, net)
  else
    let result := match net.closeFault with
      | some fault => .error fault
      | none => .ok ()
    let net := if c.connected then net.emit .disconnect else net
    (result,
      { c with closed := true, connected := false, session := { c.session with closed := true } },
      net)

/-- Closing again does nothing. -/
theorem close_of_closed (c : Client) (net : Network) (h : c.closed = true) :
    c.close net = (.ok (), c, net) := by
  simp [close, h]

/-- Asks for the version of the server. -/
def serverVersion (c : Client) (net : Network) : Except Fault Value × Network :=
  match c.checkOpen with
  | .error fault => (.error fault, net)
  | .ok () => c.session.serverVersion net

end Client

end SeriesClient
