import SeriesClient.Client.Network
import SeriesClient.Http.Location
import SeriesClient.Settings.ClientConfig

set_option relaxedAutoImplicit false
set_option autoImplicit false

/-!
# Channels for queries

The connection over which queries are made: where it goes, whether it is encrypted, and the
settings of the channel.

## Main definitions

* `SeriesClient.Channel.endpoint` — where the connection goes.
* `SeriesClient.Channel.options` — the settings of the channel.
* `SeriesClient.Connection.ofConfig` — the connection that a configuration describes.
-/

namespace SeriesClient

namespace Channel

/-- The socket number of an address; zero and none stand for that of the scheme. -/
def socket (secure : Bool) : Option Nat → Nat
  | none | some 0 => if secure then 443 else 80
  | some n => n

/-- A host as a part of a location: one that contains colons stands in brackets. -/
def hostText (host : List Char) : List Char :=
  if host.contains ':' then '[' :: host ++ [']'] else host

/-- Where the connection to a server goes. An address without a host is taken for one, whether
or not it can be. -/
def endpoint (server : Value) : Except Fault String := do
  let address := Address.ofText server.toText
  let host := if address.host.isEmpty then server.plain else address.host
  let secure := address.scheme == "https".toList
  let number := socket secure (← address.socketNumber?)
  let place := hostText host ++ ':' :: (toString number).toList
  if Location.isWellFormed place then
    return (if secure then "grpc+tls://" else "grpc+tcp://") ++ String.ofList place
  else throw .location

/-- A setting of the channel, if it has a value. -/
def option (name : String) (v : Value) : List (String × Value) :=
  if v.isNull then [] else [(name, v)]

/-- The settings of the channel. -/
def options (config : ClientConfig) : List (String × Value) :=
  [("grpc.primary_user_agent", .text userAgent)]
    ++ option "grpc.max_receive_message_length" config.maxInboundMessageSize
    ++ option "grpc.max_send_message_length" config.maxOutboundMessageSize
    ++ if config.disableGrpcCompression.truthy then
        [("grpc.default_compression_algorithm", .int 0)]
      else []

end Channel

/-- The connection that a configuration describes. -/
def Connection.ofConfig (config : ClientConfig) : Except Fault Connection := do
  return ⟨← Channel.endpoint config.host, config.sslRootCerts.truthy, !config.verifySsl.truthy,
    Channel.options config⟩

end SeriesClient
