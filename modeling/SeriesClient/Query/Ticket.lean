import SeriesClient.Json.Writer

set_option relaxedAutoImplicit false
set_option autoImplicit false

/-!
# Query tickets

A query travels to the server as a ticket: a JSON document with the database, the query,
its language, and the parameters if there are any.

## Main definitions

* `SeriesClient.Ticket` — what a ticket says.
* `SeriesClient.Ticket.document` — a ticket as a value.
* `SeriesClient.Ticket.write` — a ticket as text.
-/

namespace SeriesClient

/-- What a ticket says. -/
structure Ticket where
  /-- The database. -/
  database : Value
  /-- The query. -/
  query : Value
  /-- The language of the query. -/
  queryType : Value
  /-- The parameters by name. -/
  params : List (Value × Value)

namespace Ticket

/-- A ticket as a value. -/
def document (t : Ticket) : Value :=
  .dict ([(.text "database", t.database), (.text "sql_query", t.query),
    (.text "query_type", t.queryType)]
    ++ if t.params.isEmpty then [] else [(.text "params", .dict t.params)])

/-- A ticket as text. -/
def write (t : Ticket) : Except Fault String :=
  return String.ofList (← Json.write t.document)

end Ticket

end SeriesClient
