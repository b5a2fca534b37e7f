/-!
# The status of a unit

A feature, a scenario or a step waits, runs, and then has passed, has failed or
was left out.
-/

namespace Stepwise

inductive Status where
  | pending
  | running
  | passed
  | failed
  | skipped
deriving Repr, DecidableEq, Inhabited

namespace Status

/-- The status of a unit that is done with. A unit that was left out is neither
passed nor failed. -/
def settled (success skipped : Bool) : Status :=
  if skipped then .skipped else if success then .passed else .failed

def word : Status → String
  | .pending => "pending"
  | .running => "running"
  | .passed => "passed"
  | .failed => "failed"
  | .skipped => "skipped"

end Status

end Stepwise
