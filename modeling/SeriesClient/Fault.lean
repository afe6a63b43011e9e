import SeriesClient.Http.Headers

set_option relaxedAutoImplicit false
set_option autoImplicit false

/-!
# Faults

Everything that can go wrong in a call, as causes. The families are the ones a caller
tells apart: a value that cannot be used, a value of the wrong type, a number that is out
of range, misuse of a closed object, and failures of the service.

## Main definitions

* `SeriesClient.InvalidValue`, `SeriesClient.WrongType`, `SeriesClient.OutOfRange` — the
  mistakes of a caller.
* `SeriesClient.Fault` — all failures.
* `SeriesClient.Cause` — what a failure was raised from.
* `SeriesClient.Fault.message` — the wording.
* `SeriesClient.Fault.isServiceFailure` — whether the service, and not the caller, failed.
* `SeriesClient.Fault.cause?` — what a fault was raised from.

## Design

A fault keeps what its message shows as text, so faults do not depend on the values that
caused them.
-/

namespace SeriesClient

/-- A value of the right type that cannot be used. -/
inductive InvalidValue where
  /-- No precision has this name. -/
  | precision (shown : String)
  /-- The text is not an integer. -/
  | integerLiteral (shown : String)
  /-- The text is not a number. -/
  | numberLiteral (shown : String)
  /-- Not a number, where an integer is needed. -/
  | integerOfNan
  /-- A decimal that is not a number, where an integer is needed. -/
  | integerOfDecimalNan
  /-- A decimal that signals, where a double is needed. -/
  | doubleOfSignalingNan
  /-- A field needs a name. -/
  | fieldNameEmpty
  /-- The measurement may not be taken away. -/
  | measurementRequired
  /-- The values have no measurement. -/
  | measurementMissing
  /-- The batch to be released is not tracked any more. -/
  | batchNotTracked
  /-- No database is named. -/
  | databaseRequired
  /-- The query is empty. -/
  | queryRequired
  /-- An item that should be a key with its value has another length. -/
  | pairLength (index length : Nat)
  /-- No server is named. -/
  | hostRequired
  /-- The socket number of the server is not a number. -/
  | socket (shown : String)
  /-- The socket number of the server has more than 16 bits. -/
  | socketRange
  deriving DecidableEq, Repr

/-- A value of a type that cannot be used. -/
inductive WrongType where
  /-- A truth value is no timestamp. -/
  | booleanTimestamp
  /-- The value is no timestamp. -/
  | timestamp (shown : String)
  /-- The type has no items. -/
  | notIterable (typeName : String)
  /-- An item that should be a key with its value is no sequence. -/
  | pairSequence (index : Nat)
  /-- The type has no length. -/
  | noLength (typeName : String)
  /-- The type has no such member. -/
  | noMember (typeName member : String)
  /-- The type cannot be the value of a header field. -/
  | headerValue (typeName : String)
  /-- The type cannot be written as an integer. -/
  | integerFormat (typeName : String)
  /-- Too few values for the places of a format. -/
  | formatTooFew
  /-- More values than the places of a format. -/
  | formatTooMany
  /-- The type cannot be written as a floating-point number. -/
  | realNumber (typeName : String)
  /-- The type cannot be converted to an integer. -/
  | integerArgument (typeName : String)
  /-- The type cannot be converted to a double. -/
  | doubleArgument (typeName : String)
  /-- The field holds another kind of value. -/
  | fieldKind (name stored wanted : String)
  /-- The type cannot be a key. -/
  | unhashable (typeName : String)
  /-- A decimal that signals cannot be a key. -/
  | signalingKey
  /-- An item of a text is not text. -/
  | textItem (index : Nat) (typeName : String)
  /-- The two types have no order; the operator is the one that was tried. -/
  | unordered (operator left right : String)
  /-- The types have no difference. -/
  | difference (left right : String)
  /-- The types have no quotient. -/
  | quotient (left right : String)
  /-- The type has no magnitude. -/
  | magnitude (typeName : String)
  /-- The parameter cannot be sent. -/
  | parameter (name typeName : String)
  /-- The type has no form in a document. -/
  | document (typeName : String)
  /-- The type cannot name an entry of a document. -/
  | documentName (typeName : String)
  /-- The record has no such setting. -/
  | unknownSetting (record name : String)
  /-- The record needs this setting. -/
  | missingSetting (record name : String)
  /-- The type cannot be an address. -/
  | address (typeName shown : String)
  /-- The type cannot name a file of certificates. -/
  | certificates
  deriving DecidableEq, Repr

/-- A number that is out of range. -/
inductive OutOfRange where
  /-- An infinity, where an integer is needed. -/
  | integerOfInfinity
  /-- A decimal infinity, where an integer is needed. -/
  | integerOfDecimalInfinity
  /-- The integer is larger than every double. -/
  | doubleOfInteger
  /-- The date lies outside the years 1 to 9999. -/
  | date
  /-- The duration has too many days. -/
  | duration (days : Int)
  /-- The number of days does not fit a machine integer. -/
  | machineInteger
  deriving DecidableEq, Repr

/-- What went wrong in a call. -/
inductive Fault where
  /-- A value cannot be used. -/
  | invalid (cause : InvalidValue)
  /-- A value has the wrong type. -/
  | mistyped (cause : WrongType)
  /-- A number is out of range. -/
  | range (cause : OutOfRange)
  /-- An integer was divided by zero. -/
  | divisionByZero
  /-- A double was divided by zero. -/
  | floatingDivisionByZero
  /-- No row has this index. -/
  | index
  /-- Settings cannot be assigned to. -/
  | frozen (name : String)
  /-- The writer is already running. -/
  | alreadyRunning
  /-- The object has been closed. -/
  | closed (subject : String)
  /-- A callback or resource failed with this message. -/
  | runtime (message : String)
  /-- The server redirected too often. -/
  | redirects (message : String)
  /-- A header field with characters outside ASCII. -/
  | encoding
  /-- The address of the server cannot be read. -/
  | address
  /-- The place of a connection has not the form of a location. -/
  | location
  /-- There is no file of this name. -/
  | missingFile
  /-- The server could not be reached or the request failed on the wire. -/
  | wire (message : String) (cause : Option String)
  /-- The server answered with an error. -/
  | http (status : Int) (reason : Option String) (headers : Headers)
  /-- The server has no endpoint for writes without synchronisation; `caused` tells
  whether this was concluded from another answer. -/
  | noSync (status : Int) (reason : Option String) (headers : Headers) (caused : Bool)
  /-- Resources of a query stream failed to close; all their failures, in order. -/
  | streamClose (errors : List Fault)
  deriving Repr

/-- The wording of a value that cannot be used. -/
def InvalidValue.message : InvalidValue → String
  | precision shown => "Unsupported precision " ++ shown
  | integerLiteral shown => "invalid literal for int() with base 10: " ++ shown
  | numberLiteral shown => "could not convert string to float: " ++ shown
  | integerOfNan => "cannot convert float NaN to integer"
  | integerOfDecimalNan => "cannot convert NaN to integer"
  | doubleOfSignalingNan => "cannot convert signaling NaN to float"
  | fieldNameEmpty => "Field name must be non-empty"
  | measurementRequired => "Measurement is required"
  | measurementMissing => "Missing measurement!"
  | batchNotTracked => "list.remove(x): x not in list"
  | databaseRequired =>
    "Please specify the 'database' as a method parameter or use default configuration at "
      ++ "'ClientConfig.database'."
  | queryRequired => "Expecting a non-empty string for 'query'"
  | pairLength index length =>
    "dictionary update sequence element #" ++ toString index ++ " has length " ++ toString length
      ++ "; 2 is required"
  | hostRequired => "The URL of the InfluxDB server has to be defined."
  | socket shown => "Port could not be cast to integer value as " ++ shown
  | socketRange => "Port out of range 0-65535"

/-- The wording of a value of the wrong type. -/
def WrongType.message : WrongType → String
  | booleanTimestamp => "Boolean is not a timestamp"
  | timestamp shown => shown ++ " is not a timestamp"
  | notIterable typeName => "'" ++ typeName ++ "' object is not iterable"
  | pairSequence index =>
    "cannot convert dictionary update sequence element #" ++ toString index ++ " to a sequence"
  | noLength typeName => "object of type '" ++ typeName ++ "' has no len()"
  | noMember typeName member => "'" ++ typeName ++ "' object has no attribute '" ++ member ++ "'"
  | headerValue typeName => "Header value must be str or bytes, not <class '" ++ typeName ++ "'>"
  | integerFormat typeName => "%d format: a real number is required, not " ++ typeName
  | formatTooFew => "not enough arguments for format string"
  | formatTooMany => "not all arguments converted during string formatting"
  | realNumber typeName => "must be real number, not " ++ typeName
  | integerArgument typeName =>
    "int() argument must be a string, a bytes-like object or a real number, not '" ++ typeName
      ++ "'"
  | doubleArgument typeName =>
    "float() argument must be a string or a real number, not '" ++ typeName ++ "'"
  | fieldKind name stored wanted => "Field " ++ name ++ " is " ++ stored ++ ", not " ++ wanted
  | unhashable typeName => "unhashable type: '" ++ typeName ++ "'"
  | signalingKey => "Cannot hash a signaling NaN value"
  | textItem index typeName =>
    "sequence item " ++ toString index ++ ": expected str instance, " ++ typeName ++ " found"
  | unordered operator left right =>
    "'" ++ operator ++ "' not supported between instances of '" ++ left ++ "' and '"
      ++ right ++ "'"
  | difference left right =>
    "unsupported operand type(s) for -: '" ++ left ++ "' and '" ++ right ++ "'"
  | quotient left right =>
    "unsupported operand type(s) for //: '" ++ left ++ "' and '" ++ right ++ "'"
  | magnitude typeName => "bad operand type for abs(): '" ++ typeName ++ "'"
  | parameter name typeName =>
    "The parameter " ++ name ++ " value has unsupported type " ++ typeName
  | document typeName => "Object of type " ++ typeName ++ " is not JSON serializable"
  | documentName typeName => "keys must be str, int, float, bool or None, not " ++ typeName
  | unknownSetting record name =>
    record ++ ".__init__() got an unexpected keyword argument '" ++ name ++ "'"
  | missingSetting record name =>
    record ++ ".__init__() missing 1 required positional argument: '" ++ name ++ "'"
  | address typeName shown =>
    "Invalid type for url.  Expected str or httpx.URL, got <class '" ++ typeName ++ "'>: " ++ shown
  | certificates => "cafile should be a valid filesystem path"

/-- The wording of a number that is out of range. -/
def OutOfRange.message : OutOfRange → String
  | integerOfInfinity => "cannot convert float infinity to integer"
  | integerOfDecimalInfinity => "cannot convert Infinity to integer"
  | doubleOfInteger => "int too large to convert to float"
  | date => "date value out of range"
  | duration days => "days=" ++ toString days ++ "; must have magnitude <= 999999999"
  | machineInteger => "Python int too large to convert to C int"

/-- The wording of an answer with an error status. -/
def httpMessage (status : Int) (reason : Option String) : String :=
  "HTTP status code: " ++ toString status ++ "; Message: " ++ reason.getD "None"

mutual

/-- The wording of a fault. -/
def Fault.message : Fault → String
  | .invalid cause => cause.message
  | .mistyped cause => cause.message
  | .range cause => cause.message
  | .divisionByZero => "integer division or modulo by zero"
  | .floatingDivisionByZero => "float floor division by zero"
  | .index => "list index out of range"
  | .frozen name => "cannot assign to field '" ++ name ++ "'"
  | .alreadyRunning => ""
  | .closed subject => subject ++ " has been closed."
  | .runtime message => message
  | .redirects message => message
  | .encoding => ""
  | .address => ""
  | .location => ""
  | .missingFile => "[Errno 2] No such file or directory"
  | .wire message _ => message
  | .http status reason _ => httpMessage status reason
  | .noSync status reason _ _ =>
    "Server doesn't support write with no_sync=True "
      ++ "(supported by InfluxDB 3 Core/Enterprise servers only). " ++ httpMessage status reason
  | .streamClose errors =>
    "Failed to close query stream: " ++ String.intercalate "; " (Fault.messages errors)

/-- The wordings of several faults. -/
def Fault.messages : List Fault → List String
  | [] => []
  | fault :: rest => Fault.message fault :: Fault.messages rest

end

/-- Whether the service, and not the caller, failed. -/
def Fault.isServiceFailure : Fault → Bool
  | wire .. | http .. | noSync .. | streamClose .. => true
  | _ => false

/-- What a fault was raised from. -/
inductive Cause where
  /-- Another fault. -/
  | fault (f : Fault)
  /-- A failure of the transport, known by its name. -/
  | transport (name : String)
  deriving Repr

/-- What a fault was raised from. Of the failures of a stream that does not close this is the
first. -/
def Fault.cause? : Fault → Option Cause
  | wire _ cause => cause.map .transport
  | noSync status reason headers true => some (.fault (.http status reason headers))
  | streamClose errors => errors.head?.map .fault
  | _ => none

end SeriesClient
