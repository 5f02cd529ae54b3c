import MachineProvider.Guard

/-!
# Simulated time

The monotonic clock of a simulation counts milliseconds. It does not start at zero, since a real one
has been running since the system was started.
-/

namespace MachineProvider.Simulation

/-- What the monotonic clock shows when a simulation begins. -/
def clockOrigin : Nat := 1000000000

/-- How long a pause is whose end cannot be represented: thirty years. -/
def longestPause : Nat := 30 * 365 * 86400 * 1000

/-- How many milliseconds a pause of so many seconds takes from an instant on. -/
def pause (now seconds : Nat) : Nat :=
  if now + seconds * 1000 ≤ Guard.lastInstant then seconds * 1000 else longestPause

end MachineProvider.Simulation
