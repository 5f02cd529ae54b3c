import MachineProvider.Lease.Election

/-!
# Leadership

A replica leads from a round that succeeded on. Its lease is then renewed in the background: there is
a round after each pause, and `Leadership.afterRound` tells what a round means for how it goes on. In
the end the replica lets go of its leadership and hands the lease back, unless it has lost it
(`Leadership.release`).
-/

namespace MachineProvider

/-- The leadership of a replica. -/
structure Leadership where
  /-- Whether the lease was lost. -/
  lost : Bool := false
  /-- The last renewal and the instant of the next round, when there will be one. -/
  next : Option (Nat × Nat) := none
  deriving DecidableEq, Repr, Inhabited

namespace Leadership

/-- The leadership after the round that brought it about, which ended at an instant. The lease is
renewed from the instant `due` on, unless the replica shuts down already. -/
def begun (shutdown : Bool) (ended due : Nat) : Leadership where
  next := if shutdown then none else some (ended, due)

/-- The leadership when the lease is not renewed any more. -/
def halted (l : Leadership) : Leadership :=
  { l with next := none }

/-- The leadership after a round to renew the lease. The last renewal before was at an instant, the
round ended at another one, and a round after it would be due at the third one. -/
def afterRound (e : Elector) (l : Leadership) (lastRenewed ended due : Nat) (round : Round) :
    Leadership :=
  match Renewal.after e lastRenewed ended round with
  | .leading renewed => { l with next := some (renewed, due) }
  | .lost => { lost := true }
  | .stopped => l.halted

/-- Lets go of the leadership. The lease is handed back unless it was lost. -/
def release (e : Elector) (l : Leadership) : Election Unit :=
  if l.lost then return () else e.release

end Leadership

end MachineProvider
