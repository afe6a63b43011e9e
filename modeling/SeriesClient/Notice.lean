set_option relaxedAutoImplicit false
set_option autoImplicit false

/-!
# Notices

What a call reports besides its result.

## Main definitions

* `SeriesClient.Notice` — a message with its level.
-/

namespace SeriesClient

/-- How serious a notice is. -/
inductive Level where
  | debug | warning | error
  deriving DecidableEq, Repr

/-- A message that a call leaves behind. -/
structure Notice where
  /-- The level. -/
  level : Level
  /-- The message. -/
  message : String
  deriving DecidableEq, Repr

/-- A warning. -/
def Notice.warn (message : String) : Notice := ⟨.warning, message⟩

end SeriesClient
