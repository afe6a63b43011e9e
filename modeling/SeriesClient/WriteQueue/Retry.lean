import SeriesClient.Fault
import SeriesClient.Number.Literal
import SeriesClient.Settings.QueryOptions

set_option relaxedAutoImplicit false
set_option autoImplicit false

/-!
# Retrying failed writes

Which failures of a write may pass, and how long to wait before the next attempt.

## Main definitions

* `SeriesClient.Fault.isRetryable` — whether a failure may pass.
* `SeriesClient.Fault.retryAfter?` — the delay that the server asks for.
* `SeriesClient.Backoff.delay` — the delay before the next attempt.

## Main results

* `SeriesClient.Fault.isRetryable_http` — throttling and failures of the server may pass.
-/

namespace SeriesClient

namespace Fault

/-- Whether a failure may pass: the server was not reached, it was throttling, or it failed
itself. -/
def isRetryable : Fault → Bool
  | http status _ _ => status == 429 || decide (500 ≤ status)
  | noSync status _ _ _ => status == 429 || decide (500 ≤ status)
  | fault => fault.isServiceFailure

/-- The header fields of an answer with an error status. -/
def headers? : Fault → Option Headers
  | http _ _ headers => some headers
  | noSync _ _ headers _ => some headers
  | _ => none

/-- The delay in seconds that the server asks for, if it asks for one. -/
def retryAfter? (fault : Fault) : Option Floating :=
  (fault.headers?.bind (·.get? "Retry-After")).bind fun s => Literal.floating? s.toList

/-- Throttling and failures of the server may pass; other answers are final. -/
theorem isRetryable_http (status : Int) (reason : Option String) (headers : Headers) :
    (http status reason headers).isRetryable = true ↔ status = 429 ∨ 500 ≤ status := by
  simp [isRetryable]

end Fault

/-- The product of a number and a power of two: exact for integers, and otherwise as
doubles. -/
def Value.doubled (v : Value) (times : Nat) : Except Fault Value :=
  match v.operand? with
  | some (.whole n) => .ok (.int (n * 2 ^ times))
  | some (.double x) => do
    return .float (Format.double.multiply x (← integerToDouble (2 ^ times : Nat)))
  | none => .error (.mistyped (.realNumber v.qualifiedName))

/-- How the delay between attempts grows. -/
structure Backoff where
  /-- The delay after the first attempt, in seconds. -/
  interval : Value
  /-- The greatest delay. -/
  limit : Value

namespace Backoff

/-- The smaller of a delay and the limit; a delay that is not comparable stays. -/
def capped (b : Backoff) (delay : Value) : Except Fault Value :=
  match b.limit.less? delay with
  | some true => .ok b.limit
  | some false => .ok delay
  | none => .error (.mistyped (.unordered "<" b.limit.qualifiedName delay.qualifiedName))

/-- The delay after the failure of an attempt, the first of which has the number zero: what
the server asks for, or else twice as long as after the attempt before. -/
def delay (b : Backoff) (attempt : Nat) (fault : Fault) : Except Fault Value :=
  match fault.retryAfter? with
  | some seconds => b.capped (.float seconds)
  | none => do b.capped (← b.interval.doubled attempt)

end Backoff

end SeriesClient
