import SeriesClient.Settings.ClientConfig

set_option relaxedAutoImplicit false
set_option autoImplicit false

/-!
# Options of a write

The settings that one write can override, and their values under the configuration of the
client.

## Main definitions

* `SeriesClient.WriteOptions` — the settings of a call.
* `SeriesClient.WriteOptions.databaseOf`, `SeriesClient.WriteOptions.precisionOf`, … — their
  values once the layers are resolved.
-/

namespace SeriesClient

/-- The settings of one write. -/
structure WriteOptions where
  /-- The database. -/
  database : Value := .null
  /-- The unit of timestamps. -/
  precision : Value := .null
  /-- The size in bytes from which the body is compressed. -/
  gzipThreshold : Value := .null
  /-- Whether the write returns before it is durable. -/
  noSync : Value := .null
  /-- Tags of all points. -/
  defaultTags : Value := .null
  /-- Header fields. -/
  headers : Value := .null

namespace WriteOptions

/-- The settings with their names. -/
def fields (o : WriteOptions) : List (String × Value) :=
  [("database", o.database), ("precision", o.precision), ("gzip_threshold", o.gzipThreshold),
   ("no_sync", o.noSync), ("default_tags", o.defaultTags), ("headers", o.headers)]

/-- The settings with one replaced, if there is one of that name. -/
def set? (o : WriteOptions) (name : String) (v : Value) : Option WriteOptions :=
  match name with
  | "database" => some { o with database := v }
  | "precision" => some { o with precision := v }
  | "gzip_threshold" => some { o with gzipThreshold := v }
  | "no_sync" => some { o with noSync := v }
  | "default_tags" => some { o with defaultTags := v }
  | "headers" => some { o with headers := v }
  | _ => none

/-- The database to write to. -/
def databaseOf (o : WriteOptions) (c : ClientConfig) : Value :=
  resolve o.database c.database .null

/-- The unit of timestamps; nanoseconds if none is set. -/
def precisionOf (o : WriteOptions) (c : ClientConfig) : Except Fault Precision :=
  Precision.ofValue (resolve o.precision c.writePrecision (.precision .nano))

/-- The size from which bodies are compressed; a thousand bytes if none is set. -/
def gzipThresholdOf (o : WriteOptions) (c : ClientConfig) : Value :=
  resolve o.gzipThreshold c.gzipThreshold (.int 1000)

/-- Whether the write returns before it is durable. -/
def noSyncOf (o : WriteOptions) (c : ClientConfig) : Value :=
  resolve o.noSync c.writeNoSync (.bool false)

/-- The default tags: those of the call if it has any, or else those of the client. -/
def defaultTagsOf (o : WriteOptions) (c : ClientConfig) : Except Fault (OrderedMap Value Value) :=
  (resolve o.defaultTags.orNull c.defaultTags.orNull (.dict [])).toMap

/-- The header fields of the call. -/
def headersOf (o : WriteOptions) : Except Fault (OrderedMap Value Value) :=
  o.headers.toMap

end WriteOptions

end SeriesClient
