import MachineProvider.Delay

/-!
# What follows a reconcile

A reconcile that succeeded waits for the next change of its object, or asks to run again after a
delay.
-/

namespace MachineProvider

/-- What is to follow a reconcile that succeeded. -/
inductive Action where
  | awaitChange
  | requeue (after : Delay)
  deriving DecidableEq, Repr, Inhabited

end MachineProvider
