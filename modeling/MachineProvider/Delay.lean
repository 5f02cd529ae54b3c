/-!
# Delays

How long to wait before something is done again, in milliseconds. Texts show whole seconds.
-/

namespace MachineProvider

/-- A span of time to wait. -/
structure Delay where
  millis : Nat
  deriving DecidableEq, Repr, Inhabited

namespace Delay

/-- A delay of whole seconds. -/
def ofSeconds (seconds : Nat) : Delay := ⟨seconds * 1000⟩

/-- The whole seconds of a delay. -/
def seconds (d : Delay) : Nat := d.millis / 1000

@[simp] theorem seconds_ofSeconds (n : Nat) : (ofSeconds n).seconds = n := by
  simp [ofSeconds, seconds]

theorem ofSeconds_inj {m n : Nat} : ofSeconds m = ofSeconds n ↔ m = n := by
  simp only [ofSeconds, mk.injEq]
  omega

end Delay

end MachineProvider
