import SeriesClient.Settings.ClientConfig

set_option relaxedAutoImplicit false
set_option autoImplicit false

/-!
# Options of a query

The settings of one query, and how long the call may take.

## Main definitions

* `SeriesClient.CallOptions` — deadline and timeout of a remote call.
* `SeriesClient.CallOptions.remaining` — the seconds until the deadline.
* `SeriesClient.CallOptions.effectiveTimeout` — the seconds that a call may take.
* `SeriesClient.QueryOptions` — the settings of a query.

## Design

A deadline that has passed counts as none. The reading of the clock is an argument.
-/

namespace SeriesClient

/-- The settings of one remote call. -/
structure CallOptions where
  /-- When the call has to be complete: a date-time, or seconds since 1970. -/
  deadline : Value := .null
  /-- How many seconds the call may take. -/
  timeout : Value := .null
  /-- How what the client sends is compressed. -/
  compression : Value := .null
  /-- The greatest size of a received message. -/
  maxInboundMessageSize : Value := .null
  /-- The greatest size of a sent message. -/
  maxOutboundMessageSize : Value := .null

/-- The difference of two numbers: exact between integers, and otherwise as doubles. -/
def Value.minus (a b : Value) : Except Fault Value :=
  match a.operand?, b.operand? with
  | some (.whole m), some (.whole n) => .ok (.int (m - n))
  | some x, some y => do return .float (Format.double.subtract (← x.toDouble) (← y.toDouble))
  | _, _ => .error (.mistyped (.difference a.qualifiedName b.qualifiedName))

namespace CallOptions

/-- The settings with their names. -/
def fields (o : CallOptions) : List (String × Value) :=
  [("deadline", o.deadline), ("timeout", o.timeout), ("compression", o.compression),
   ("max_inbound_message_size", o.maxInboundMessageSize),
   ("max_outbound_message_size", o.maxOutboundMessageSize)]

/-- The settings with one replaced, if there is one of that name. -/
def set? (o : CallOptions) (name : String) (v : Value) : Option CallOptions :=
  match name with
  | "deadline" => some { o with deadline := v }
  | "timeout" => some { o with timeout := v }
  | "compression" => some { o with compression := v }
  | "max_inbound_message_size" => some { o with maxInboundMessageSize := v }
  | "max_outbound_message_size" => some { o with maxOutboundMessageSize := v }
  | _ => none

/-- The seconds until the deadline; none if there is no deadline or it has passed. -/
def remaining (o : CallOptions) (now : Value) : Except Fault Value :=
  match o.deadline with
  | .null => .ok .null
  | deadline => do
    let left ← (match deadline with
      | .datetime t => Value.float t.toSeconds
      | v => v).minus now
    return if ← left.isPositive then left else .null

/-- The value if it is a positive number. -/
def positiveOrNull (v : Value) : Except Fault Value :=
  if v.isNull then .ok .null else do return if ← v.isPositive then v else .null

/-- The seconds a call may take: until the deadline, or else the timeout of the call, or
else the default, of which only positive ones count. -/
def effectiveTimeout (o : CallOptions) (default now : Value) : Except Fault Value := do
  let left ← o.remaining now
  if !left.isNull then return left
  let own ← positiveOrNull o.timeout
  if !own.isNull then return own
  positiveOrNull default

end CallOptions

/-- The settings of one query. -/
structure QueryOptions where
  /-- The database. -/
  database : Value := .null
  /-- The language of the query. -/
  queryType : Value := .null
  /-- Header fields. -/
  headers : Value := .null
  /-- The settings of the remote call. -/
  callOptions : Option CallOptions := some {}

namespace QueryOptions

/-- The settings with their names, but for those of the remote call. -/
def fields (o : QueryOptions) : List (String × Value) :=
  [("database", o.database), ("query_type", o.queryType), ("headers", o.headers)]

/-- The settings with one replaced, if there is one of that name. -/
def set? (o : QueryOptions) (name : String) (v : Value) : Option QueryOptions :=
  match name with
  | "database" => some { o with database := v }
  | "query_type" => some { o with queryType := v }
  | "headers" => some { o with headers := v }
  | _ => none

/-- The database to query. -/
def databaseOf (o : QueryOptions) (c : ClientConfig) : Value :=
  resolve o.database c.database .null

/-- The language of the query; SQL if none is set. -/
def queryTypeOf (o : QueryOptions) : Value :=
  resolve o.queryType .null (.text "sql")

/-- The header fields of the call. -/
def headersOf (o : QueryOptions) : Except Fault (OrderedMap Value Value) :=
  o.headers.toMap

/-- The settings of the remote call. -/
def callOptionsOf (o : QueryOptions) : CallOptions :=
  o.callOptions.getD {}

end QueryOptions

end SeriesClient
