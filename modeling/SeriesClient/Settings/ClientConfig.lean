import SeriesClient.Settings.Layer

set_option relaxedAutoImplicit false
set_option autoImplicit false

/-!
# Client configuration

The settings that a client is made with.

## Main definitions

* `SeriesClient.ClientConfig` — the settings, each a value or absent.
* `SeriesClient.ClientConfig.validate` — a client needs a server to talk to.
* `SeriesClient.ClientConfig.set?` — replaces a setting by name.
* `SeriesClient.ClientConfig.ofSettings` — the settings given by name.

## Main results

* `SeriesClient.ClientConfig.validate_eq_ok_iff` — only the server has to be named.

## Design

Two of the settings, the time that a write may take and whether redirects are followed, are kept
for the transport. Nothing here reads them.
-/

namespace SeriesClient

/-- The settings of a client. -/
structure ClientConfig where
  /-- The address of the server. -/
  host : Value
  /-- The access token. -/
  token : Value := .null
  /-- The word before the token. -/
  authScheme : Value := .null
  /-- The organization that databases belong to. -/
  organization : Value := .null
  /-- The database of calls that name none. -/
  database : Value := .null
  /-- The unit of written timestamps. -/
  writePrecision : Value := .null
  /-- The size in bytes from which bodies are compressed. -/
  gzipThreshold : Value := .null
  /-- Whether writes return before they are durable. -/
  writeNoSync : Value := .null
  /-- Tags of all written points. -/
  defaultTags : Value := .null
  /-- Header fields of all requests. -/
  headers : Value := .null
  /-- Seconds until a write is given up. The transport watches over them: a write that was given up
  is one of the replies of the network. -/
  writeTimeout : Value := .float (Format.double.ofInt 10)
  /-- Seconds until a query is given up. -/
  queryTimeout : Value := .null
  /-- Whether the transport follows redirects. No request looks at this setting: the reply to a
  request is the one that the transport hands back. -/
  allowHttpRedirects : Value := .bool false
  /-- Whether the certificate of the server is checked. -/
  verifySsl : Value := .bool true
  /-- The file with the trusted certificates. -/
  sslRootCerts : Value := .null
  /-- Whether query results come uncompressed. -/
  disableGrpcCompression : Value := .bool false
  /-- The greatest size of a received message. -/
  maxInboundMessageSize : Value := .null
  /-- The greatest size of a sent message. -/
  maxOutboundMessageSize : Value := .null

namespace ClientConfig

/-- The settings with their names. -/
def fields (c : ClientConfig) : List (String × Value) :=
  [("host", c.host), ("token", c.token), ("auth_scheme", c.authScheme),
   ("organization", c.organization), ("database", c.database),
   ("write_precision", c.writePrecision), ("gzip_threshold", c.gzipThreshold),
   ("write_no_sync", c.writeNoSync), ("default_tags", c.defaultTags), ("headers", c.headers),
   ("write_timeout", c.writeTimeout), ("query_timeout", c.queryTimeout),
   ("allow_http_redirects", c.allowHttpRedirects), ("verify_ssl", c.verifySsl),
   ("ssl_root_certs", c.sslRootCerts), ("disable_grpc_compression", c.disableGrpcCompression),
   ("max_inbound_message_size", c.maxInboundMessageSize),
   ("max_outbound_message_size", c.maxOutboundMessageSize)]

/-- The settings with one replaced, if there is one of that name. -/
def set? (c : ClientConfig) (name : String) (v : Value) : Option ClientConfig :=
  match name with
  | "host" => some { c with host := v }
  | "token" => some { c with token := v }
  | "auth_scheme" => some { c with authScheme := v }
  | "organization" => some { c with organization := v }
  | "database" => some { c with database := v }
  | "write_precision" => some { c with writePrecision := v }
  | "gzip_threshold" => some { c with gzipThreshold := v }
  | "write_no_sync" => some { c with writeNoSync := v }
  | "default_tags" => some { c with defaultTags := v }
  | "headers" => some { c with headers := v }
  | "write_timeout" => some { c with writeTimeout := v }
  | "query_timeout" => some { c with queryTimeout := v }
  | "allow_http_redirects" => some { c with allowHttpRedirects := v }
  | "verify_ssl" => some { c with verifySsl := v }
  | "ssl_root_certs" => some { c with sslRootCerts := v }
  | "disable_grpc_compression" => some { c with disableGrpcCompression := v }
  | "max_inbound_message_size" => some { c with maxInboundMessageSize := v }
  | "max_outbound_message_size" => some { c with maxOutboundMessageSize := v }
  | _ => none

/-- Refuses settings that name no server. -/
def validate (c : ClientConfig) : Except Fault Unit :=
  if c.host.isUnset then .error (.invalid .hostRequired) else .ok ()

/-- Only the server has to be named. -/
theorem validate_eq_ok_iff (c : ClientConfig) : c.validate = .ok () ↔ c.host.isUnset = false := by
  unfold validate
  split <;> simp_all

end ClientConfig

/-- The settings after replacing some by name; a name that no setting has is refused. -/
def replaceAll {σ : Type} (record : String) (set? : σ → String → Value → Option σ) :
    σ → List (String × Value) → Except Fault σ
  | s, [] => .ok s
  | s, (name, v) :: rest =>
    match set? s name v with
    | some s' => replaceAll record set? s' rest
    | none => .error (.mistyped (.unknownSetting record name))

/-- The configuration with some settings given by name, of which the server has to be one. -/
def ClientConfig.ofSettings (settings : List (String × Value)) : Except Fault ClientConfig := do
  let config ← replaceAll "ClientConfig" ClientConfig.set? { host := .null } settings
  if settings.any fun e => e.1 == "host" then return config
  else throw (.mistyped (.missingSetting "ClientConfig" "host"))

end SeriesClient
