import MachineProvider.Proofs.Lease.Timing
import MachineProvider.Proofs.Store
import Mathlib.Data.Finset.Card
import Mathlib.Logic.Relation

/-!
# Replicas that elect a leader

Replicas of one configuration share a lease and a clock. Each of them does its work question by
question, and between any two questions of one replica the others may go on. Calls take no time, so
the clock only moves on while nobody is in the middle of something, and never past the end of a
sleep. A call may fail for any reason, and a failed write leaves the lease as it is. A replica leads
from the end of a round that succeeded until it has lost the lease, is told to shut down, or lets go
of its leadership.
-/

namespace MachineProvider

namespace Election

/-- How the API server answers a question about a lease while the clock on the wall shows the same,
and what it has stored afterwards. Only the current version is written over. -/
def Serves («namespace» name : String) (wall : Timestamp) (store after : Store Lease) :
    (q : Question) → Answer q → Prop
  | .now, t => t = wall ∧ after = store
  | .fetch n nm, .ok lease =>
    n = «namespace» ∧ nm = name ∧ store.current = some lease ∧ after = store
  | .create n nm lease, .ok () =>
    n = «namespace» ∧ nm = name ∧ store.current = none ∧
      ∃ v, store.IsFresh v ∧ v.spec = lease.spec ∧ after = store.put v
  | .replace n nm lease, .ok () =>
    n = «namespace» ∧ nm = name ∧ store.Accepts lease ∧
      ∃ v, store.IsFresh v ∧ v.spec = lease.spec ∧ after = store.put v
  | .fetch .., .error _ => after = store
  | .create .., .error _ => after = store
  | .replace .., .error _ => after = store

/-- Why a replica is in a round. -/
inductive Purpose where
  /-- It wants to lead. -/
  | acquire
  /-- It leads, and a round succeeded last at the given instant. -/
  | renew (lastRenewed : Nat)
  /-- It led when the round began, and was told to shut down in the meantime. -/
  | conclude (lastRenewed : Nat)

/-- What a replica is doing. -/
inductive Stage where
  /-- It takes no part. -/
  | idle
  /-- It wants to lead, and its next round is due at the given instant. -/
  | waiting (due : Nat)
  /-- It is in a round, of which so much is left. -/
  | inRound (purpose : Purpose) (rest : Election Round)
  /-- It leads, a round succeeded last at the first instant, and the next one is due at the
  second. -/
  | leading (lastRenewed due : Nat)
  /-- It leads, and nothing renews its lease any more. -/
  | stalled
  /-- It has stopped to lead, and has not let go of its leadership. -/
  | retired
  /-- It hands the lease back. -/
  | resigning (rest : Election Unit)

namespace Stage

/-- Whether a replica leads. -/
def Leads : Stage → Prop
  | leading .. => True
  | stalled => True
  | inRound (.renew _) _ => True
  | _ => False

/-- Whether a replica became the leader and has not let go of its leadership. -/
def HoldsGuard : Stage → Prop
  | leading .. => True
  | stalled => True
  | retired => True
  | inRound (.renew _) _ => True
  | inRound (.conclude _) _ => True
  | _ => False

/-- Whether the clock may move on to an instant: nobody is asking anything, and no sleep ends
before. -/
def RestsUntil (instant : Nat) : Stage → Prop
  | idle => True
  | stalled => True
  | retired => True
  | waiting due => instant ≤ due
  | leading _ due => instant ≤ due
  | inRound .. => False
  | resigning _ => False

/-- What a replica does that is told to shut down. A round that has begun goes on. -/
def shutDown : Stage → Stage
  | waiting _ => idle
  | leading .. => retired
  | stalled => retired
  | inRound (.renew lastRenewed) rest => inRound (.conclude lastRenewed) rest
  | stage => stage

/-- What a replica does after a round that ended at an instant. -/
def afterRound (e : Elector) (instant : Nat) (result : Round) : Purpose → Stage
  | .acquire =>
    match result with
    | .held => leading instant (instant + e.retryPeriod.millis)
    | .notHeld => waiting (instant + e.retryPeriod.millis)
    | .failed _ => waiting (instant + e.retryPeriod.millis)
    | .crashed => idle
  | .renew lastRenewed =>
    match Renewal.after e lastRenewed instant result with
    | .leading renewed => leading renewed (instant + e.retryPeriod.millis)
    | .lost => idle
    | .stopped => stalled
  | .conclude lastRenewed =>
    match Renewal.after e lastRenewed instant result with
    | .leading _ => retired
    | .lost => idle
    | .stopped => retired

variable {e : Elector} {lastRenewed instant : Nat} (cause : Error)

/-- A leader whose round fails before the deadline goes on. -/
theorem afterRound_of_lt (early : instant - lastRenewed < e.renewDeadline.millis) :
    afterRound e instant (.failed cause) (.renew lastRenewed) =
      leading lastRenewed (instant + e.retryPeriod.millis) := by
  simp [afterRound, Renewal.after, early]

/-- A leader whose round fails after the deadline has lost the lease. -/
theorem afterRound_of_le (late : e.renewDeadline.millis ≤ instant - lastRenewed) :
    afterRound e instant (.failed cause) (.renew lastRenewed) = idle := by
  simp [afterRound, Renewal.after, not_lt.mpr late]

end Stage

/-- What a replica may do at an instant, and what the API server has stored afterwards. -/
inductive Moves (e : Elector) (instant : Nat) (wall : Timestamp) (store : Store Lease) :
    Stage → Stage → Store Lease → Prop
  /-- It begins to take part. -/
  | enters : Moves e instant wall store .idle (.inRound .acquire e.round) store
  /-- It tries again to become the leader. -/
  | retries {due : Nat} (isDue : due ≤ instant) :
    Moves e instant wall store (.waiting due) (.inRound .acquire e.round) store
  /-- It begins to renew its lease. -/
  | renews {lastRenewed due : Nat} (isDue : due ≤ instant) :
    Moves e instant wall store (.leading lastRenewed due) (.inRound (.renew lastRenewed) e.round)
      store
  /-- It is answered in a round. -/
  | asks {purpose : Purpose} {q : Question} {next : Answer q → Election Round} {a : Answer q}
    {after : Store Lease} (served : Serves e.namespace e.leaseName wall store after q a) :
    Moves e instant wall store (.inRound purpose (.ask q next)) (.inRound purpose (next a)) after
  /-- Its round ends. -/
  | ends {purpose : Purpose} {result : Round} :
    Moves e instant wall store (.inRound purpose (.done result))
      (Stage.afterRound e instant result purpose) store
  /-- It is told to shut down. -/
  | shutsDown {stage : Stage} : Moves e instant wall store stage stage.shutDown store
  /-- It lets go of its leadership and begins to hand the lease back. -/
  | releases {stage : Stage} (held : stage.HoldsGuard) :
    Moves e instant wall store stage (.resigning e.release) store
  /-- It lets go of its leadership without a word to the others. -/
  | drops {stage : Stage} (held : stage.HoldsGuard) : Moves e instant wall store stage .idle store
  /-- It is answered while it hands the lease back. -/
  | asksBack {q : Question} {next : Answer q → Election Unit} {a : Answer q} {after : Store Lease}
    (served : Serves e.namespace e.leaseName wall store after q a) :
    Moves e instant wall store (.resigning (.ask q next)) (.resigning (next a)) after
  /-- It has handed the lease back. -/
  | leaves : Moves e instant wall store (.resigning (.done ())) .idle store

end Election

open Election

/-- The replicas of a configuration with an enabled election and without a fault. -/
structure Replicas where
  config : LeaderElectionConfig
  environment : Environment
  /-- Who takes part. -/
  identities : Finset String
  enabled : config.enabled = true
  valid : config.fault? = none
  named : ∀ id ∈ identities, id ≠ ""

namespace Replicas

/-- The lease, the clocks and the replicas at an instant. -/
structure World where
  /-- Milliseconds of the monotonic clock. -/
  clock : Nat
  /-- What the clock on the wall showed when the monotonic clock showed zero, in microseconds. -/
  epoch : Int
  store : Store Lease
  stage : String → Stage

/-- What the clock on the wall shows when the monotonic clock shows an instant. -/
def World.wallAt (w : World) (instant : Nat) : Timestamp :=
  .ofMicros (w.epoch + 1000 * instant)

/-- The record of the lease that is stored. -/
def recorded (store : Store Lease) : Option LeaseSpec :=
  store.current.bind Lease.spec

variable (group : Replicas)

/-- The elector with an identity. -/
def elector (id : String) : Elector :=
  .ofConfig group.config group.environment id

/-- How long a lease of the replicas lasts, as it records it. -/
def duration : Int32 :=
  (group.elector "").recordedDuration

theorem retryPeriod_elector (id : String) :
    (group.elector id).retryPeriod.millis = group.config.retryPeriodSeconds.toNat * 1000 := rfl

theorem renewDeadline_elector (id : String) :
    (group.elector id).renewDeadline.millis = group.config.renewDeadlineSeconds.toNat * 1000 := rfl

theorem toInt_duration : group.duration.toInt = group.config.secondsToTakeOver :=
  Elector.toInt_recordedDuration _ _ _

theorem sound : group.config.Sound :=
  LeaderElectionConfig.sound_of_fault? group.enabled group.valid

/-- Whether a lease that names one of the replicas lasts as long as the leases of the replicas do. -/
def Agrees (spec : Option LeaseSpec) : Prop :=
  ∀ s, spec = some s → ∀ id ∈ group.identities, s.holderIdentity = some id →
    s.leaseDurationSeconds = some group.duration

/-- How the election may begin: nobody takes part yet, and there may be any lease that is somebody
else's, or one that was left behind by one of the replicas. Of the latter not everything is allowed:
a lease that names a replica has the duration that the replicas record, as if they had never had
another configuration. -/
structure Begins (w : World) : Prop where
  idle : ∀ id, w.stage id = .idle
  lawful : w.store.Lawful
  /-- The restriction on a lease that was left behind. -/
  agrees : group.Agrees (recorded w.store)

/-- What happens next: time passes, or one of the replicas does something. -/
inductive Step : World → World → Prop
  | passes {w : World} {later : Nat} (forward : w.clock ≤ later)
    (rest : ∀ id ∈ group.identities, (w.stage id).RestsUntil later) :
    Step w { w with clock := later }
  | moves {w : World} {id : String} {stage : Stage} {store : Store Lease}
    (member : id ∈ group.identities)
    (move : Moves (group.elector id) w.clock (w.wallAt w.clock) w.store (w.stage id) stage store) :
    Step w { w with store := store, stage := Function.update w.stage id stage }

/-- Whether a run leads to a world. -/
def Reachable (w : World) : Prop :=
  ∃ start, group.Begins start ∧ Relation.ReflTransGen group.Step start w

end Replicas

end MachineProvider
