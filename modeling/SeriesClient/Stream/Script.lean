import SeriesClient.Stream.Basic
import SeriesClient.Value.Basic

set_option relaxedAutoImplicit false
set_option autoImplicit false

/-!
# Scripted streams

Streams over a source and batches that follow a script, and count what is done to them.

## Main definitions

* `SeriesClient.ScriptBatch` — a batch with the steps of its decoder.
* `SeriesClient.Tally` — what has been done to the source and the batches.
* `SeriesClient.Script` — the failures of a script.
* `SeriesClient.Script.handler` — a stream's view of a script.
-/

namespace SeriesClient

/-- A batch of a script. -/
structure ScriptBatch where
  /-- Its place in the script. -/
  index : Nat
  /-- The steps of the decoder. -/
  steps : List (DecodeStep Value)
  /-- The failure of its release. -/
  failure : Option Fault
  /-- Whether there is nothing to do for its release. -/
  plain : Bool

/-- What has been done to the source and the batches. -/
structure Tally where
  /-- How often the source was closed. -/
  sourceCloses : Nat
  /-- How often each batch was released. -/
  batchCloses : List Nat
  /-- How often the callback was called. -/
  callbacks : Nat
  deriving DecidableEq, Repr

/-- The failures of a script. -/
structure Script where
  /-- How many of the first attempts to close the source fail. -/
  closeFailures : Nat
  /-- Whether there is a callback. -/
  hasCallback : Bool
  /-- Whether batches are decoded. -/
  decodes : Bool

namespace Script

/-- An attempt to close the source. -/
def closeSource (script : Script) (source : Source ScriptBatch) (t : Tally) :
    Except Fault Unit × Source ScriptBatch × Tally :=
  let attempt := t.sourceCloses + 1
  let result := if t.sourceCloses < script.closeFailures
    then .error (.runtime ("close failed #" ++ toString attempt)) else .ok ()
  (result, source, { t with sourceCloses := attempt })

/-- The release of a batch. -/
def releaseBatch (b : ScriptBatch) (t : Tally) : Except Fault Unit × Tally :=
  if b.plain then (.ok (), t)
  else
    let t := { t with batchCloses := t.batchCloses.modify b.index (· + 1) }
    match b.failure with
    | some fault => (.error fault, t)
    | none => (.ok (), t)

/-- A call of the callback. -/
def callback (script : Script) (t : Tally) : Except Fault Unit × Tally :=
  (.ok (), if script.hasCallback then { t with callbacks := t.callbacks + 1 } else t)

/-- A stream's view of a script. -/
def handler (script : Script) : Handler Tally ScriptBatch Value where
  closeSource := script.closeSource
  releaseBatch := releaseBatch
  callback := script.callback
  decoding :=
    if script.decodes then
      .steps (fun b => b.steps.length) fun b i t => ((b.steps[i]?).getD .close, [], t)
    else .raw fun b => .text ("batch " ++ toString b.index)

end Script

end SeriesClient
