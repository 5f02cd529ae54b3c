import MachineProvider.ApiAnswer
import MachineProvider.Config.Basic
import MachineProvider.Lease.Basic
import MachineProvider.Procedure

/-!
# Leader election

An elector is a replica that wants to lead. In a round it reads the lease and takes, renews or
leaves it; a write names the version that was read, so that of two electors only one succeeds. A
replica leads from a successful round on, as long as its later rounds do not say otherwise:
`Renewal.after` tells what a round means for a replica that leads.
-/

namespace MachineProvider

namespace Election

/-- A question of an elector. -/
inductive Question where
  /-- What the clock on the wall shows. -/
  | now
  /-- Reads a lease. -/
  | fetch («namespace» name : String)
  /-- Makes a new lease. -/
  | create («namespace» name : String) (lease : Lease)
  /-- Writes a lease over the version that was read. -/
  | replace («namespace» name : String) (lease : Lease)

/-- The answer to a question. -/
abbrev Answer : Question → Type
  | .now => Timestamp
  | .fetch .. => Except ApiFailure Lease
  | .create .. => Except ApiFailure Unit
  | .replace .. => Except ApiFailure Unit

end Election

/-- A procedure of an elector. -/
abbrev Election (α : Type) := Procedure Election.Question Election.Answer α

/-- What a round on the lease came to. -/
inductive Round where
  /-- The lease is ours. -/
  | held
  /-- Somebody else has the lease, or was faster. -/
  | notHeld
  /-- It is not known who has the lease. -/
  | failed (cause : Error)
  /-- The end of the lease that was read cannot be represented. -/
  | crashed
  deriving DecidableEq, Repr, Inhabited

/-- A replica that wants to lead. -/
structure Elector where
  leaseName : String
  «namespace» : String
  identity : String
  /-- How long the replica lets others wait after its last renewal. -/
  leaseDuration : Delay
  /-- How long the replica keeps trying after its last renewal. -/
  renewDeadline : Delay
  retryPeriod : Delay
  deriving DecidableEq, Repr, Inhabited

namespace Elector

/-- The environment variable that holds the name of the pod. -/
def podVariable : String := "POD_NAME"

/-- The environment variable that holds the name of the host. -/
def hostVariable : String := "HOSTNAME"

/-- The environment variable that holds the namespace of the pod. -/
def namespaceVariable : String := "POD_NAMESPACE"

/-- The identity of a replica: the name of its pod, or else of its host, or else one that is made of
the number of its process. -/
def defaultIdentity (env : Environment) (process : String) : String :=
  ((env.get? podVariable).orElse fun _ => env.get? hostVariable).getD ("capdc-manager-" ++ process)

/-- The namespace of the lease: the configured one, or else that of the pod. -/
def leaseNamespace (config : LeaderElectionConfig) (env : Environment) : String :=
  (config.leaseNamespace.orElse fun _ => env.get? namespaceVariable).getD "default"

/-- The elector of a configuration. -/
def ofConfig (config : LeaderElectionConfig) (env : Environment) (identity : String) : Elector where
  leaseName := config.leaseName
  «namespace» := leaseNamespace config env
  identity
  leaseDuration := .ofSeconds config.leaseDurationSeconds.toNat
  renewDeadline := .ofSeconds config.renewDeadlineSeconds.toNat
  retryPeriod := .ofSeconds config.retryPeriodSeconds.toNat

/-- The duration as a lease records it: what is too long is recorded as the longest. -/
def recordedDuration (e : Elector) : Int32 :=
  Int32.ofInt (min (e.leaseDuration.seconds : Int) Int32.maxValue.toInt)

/-- The lease that an elector makes when there is none. -/
def newLease (e : Elector) (now : Timestamp) : Lease where
  metadata := { name := some e.leaseName, «namespace» := some e.namespace }
  spec := some
    { holderIdentity := some e.identity
      leaseDurationSeconds := some e.recordedDuration
      acquireTime := some now
      renewTime := some now
      leaseTransitions := some 0 }

/-- The lease after a renewal. -/
def renewed (lease : Lease) (now : Timestamp) : Lease :=
  { lease with spec := some { lease.spec.getD {} with renewTime := some now } }

/-- The lease after a change of hands. -/
def taken (e : Elector) (lease : Lease) (transitions : Int32) (now : Timestamp) : Lease :=
  { lease with
    spec := some
      { lease.spec.getD {} with
        holderIdentity := some e.identity
        leaseDurationSeconds := some e.recordedDuration
        acquireTime := some now
        renewTime := some now
        leaseTransitions := some (transitions + 1) } }

/-- What the answer to a write means. A refusal because of another write means that somebody else
was faster. -/
def roundOfWrite : Except ApiFailure Unit → Round
  | .ok () => .held
  | .error e => if e.hasCode 409 then .notHeld else .failed (.api e)

/-- Writes the lease that a decision leads to. -/
def carryOut (e : Elector) (lease : Lease) (now : Timestamp) : Option LeaseDecision → Election Round
  | none => return .crashed
  | some .wait => return .notHeld
  | some .renew =>
    .ask (.replace e.namespace e.leaseName (renewed lease now)) fun r => .done (roundOfWrite r)
  | some (.takeOver transitions) =>
    .ask (.replace e.namespace e.leaseName (e.taken lease transitions now)) fun r =>
      .done (roundOfWrite r)

/-- One round on the lease. -/
def round (e : Elector) : Election Round :=
  .ask .now fun now =>
    if e.leaseName.isEmpty then .done (.failed (.api .emptyName))
    else
      .ask (.fetch e.namespace e.leaseName) fun answer =>
        match ApiAnswer.present answer with
        | .error cause => .done (.failed cause)
        | .ok none =>
          .ask (.create e.namespace e.leaseName (e.newLease now)) fun r => .done (roundOfWrite r)
        | .ok (some lease) => e.carryOut lease now (Lease.decide lease.spec e.identity now)

/-- Whether a lease names the elector as its holder. -/
def isHolderOf (e : Elector) (lease : Lease) : Bool :=
  match lease.spec with
  | some spec => spec.holderIdentity = some e.identity
  | none => false

/-- The lease without its holder. -/
def released (lease : Lease) : Lease :=
  { lease with spec := lease.spec.map fun spec => { spec with holderIdentity := none } }

/-- Hands the lease back, so that others need not wait until it expires. Failures do not matter. -/
def release (e : Elector) : Election Unit :=
  if e.leaseName.isEmpty then return ()
  else
    .ask (.fetch e.namespace e.leaseName) fun
      | .ok lease =>
        if e.isHolderOf lease then
          .ask (.replace e.namespace e.leaseName (released lease)) fun _ => .done ()
        else .done ()
      | .error _ => .done ()

end Elector

/-- The state of a replica that leads. -/
inductive Renewal where
  /-- The replica leads, and a round succeeded last at the given instant. -/
  | leading (lastRenewed : Nat)
  /-- The replica no longer leads, and shuts down. -/
  | lost
  /-- No further round takes place, and nothing is known about the lease. -/
  | stopped
  deriving DecidableEq, Repr, Inhabited

namespace Renewal

/-- What a round means that ended at the given instant. A failure only matters once the deadline
after the last renewal has passed. -/
def after (e : Elector) (lastRenewed ended : Nat) : Round → Renewal
  | .held => .leading ended
  | .notHeld => .lost
  | .failed _ =>
    if ended - lastRenewed < e.renewDeadline.millis then .leading lastRenewed else .lost
  | .crashed => .stopped

end Renewal

end MachineProvider
