import MachineProvider.Controller.Watch
import MachineProvider.Error
import MachineProvider.FailureCount

/-!
# Retrying after a failure

A failure that asks for a delay of its own gets it and is not counted. Any other failure is counted
for its object, and the delay grows with the count.
-/

namespace MachineProvider

/-- The key under which the failures of a target are counted. -/
def Target.failureKey (t : Target) : String :=
  objectKey t.kind.type.kind (t.namespace.getD "") t.name

namespace FailureCount

/-- How long to wait after a failure. -/
def delayAfter (counts : FailureCount) (config : BackoffConfig) (key : String) (e : Error) :
    Delay × FailureCount :=
  match e.retryAfter? with
  | some delay => (delay, counts)
  | none => counts.next config key

/-- A failure with a delay of its own is not counted. -/
theorem delayAfter_requeue (counts : FailureCount) (config : BackoffConfig) (key : String)
    (source : Error) (after : Delay) :
    counts.delayAfter config key (.requeue source after) = (after, counts) := rfl

end FailureCount

end MachineProvider
