import SeriesClient.Http.Headers
import SeriesClient.Http.Status
import SeriesClient.Json.Reader
import SeriesClient.Json.Search
import SeriesClient.Notice
import SeriesClient.Text.Utf8
import SeriesClient.Value.Text

set_option relaxedAutoImplicit false
set_option autoImplicit false

/-!
# The reason for a failed request

The most useful message of a response with an error status: a message in a JSON body, or
else a known header field, or else the body as it is, or else the phrase of the status.

## Main definitions

* `SeriesClient.Http.bodyMessage?` — the message in a document.
* `SeriesClient.Http.headerMessage?` — the message in the header fields.
* `SeriesClient.Http.reason` — the message of a response.

## Design

Empty texts never count as messages. A value of a document that is an object or an array
is no message, and any other is written as plain text.
-/

namespace SeriesClient.Http

/-- The names under which a document holds its message, the best first. -/
def messageNames : List String := ["message", "error_message", "error"]

/-- The header fields that hold a message, the best first. -/
def messageHeaders : List String :=
  ["X-Platform-Error-Code", "X-Influx-Error", "X-InfluxDb-Error"]

/-- The text of a value in a document, if it can be a message. -/
def messageText? : Value → Option String
  | .null => none
  | .dict _ => none
  | .list _ => none
  | v => if v.plain.isEmpty then none else some v.toText

/-- The message in a document. -/
def bodyMessage? (root : Value) : Option String :=
  messageNames.findSome? fun name => (Json.find? (.text name) root).bind messageText?

/-- The message in the header fields. -/
def headerMessage? (headers : Headers) : Option String :=
  messageHeaders.findSome? fun name => (headers.get? name).filter fun v => !v.isEmpty

/-- The message that does not come from a document. -/
def plainReason (status : Int) (headers : Headers) (text : List Char) : String :=
  match headerMessage? headers with
  | some message => message
  | none => if text.isEmpty then (phrase? status).getD "" else String.ofList text

/-- The message of a response, with a notice if its body is no document. -/
def reason (status : Int) (headers : Headers) (body : List UInt8) : String × List Notice :=
  let text := Utf8.decodeLossy body
  if text.isEmpty then (plainReason status headers text, [])
  else
    match Json.parse? text with
    | none =>
      (plainReason status headers text,
        [⟨.debug, "Can't parse msg from response " ++ String.ofList (Quoted.text text)⟩])
    | some root => ((bodyMessage? root).getD (plainReason status headers text), [])

end SeriesClient.Http
