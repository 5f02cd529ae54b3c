import MachineProvider.Object.Basic

/-!
# Leases

Replicas choose a leader by a lease: a record at the API server that says who leads, since when, and
when the leader last said so. A lease that has not been renewed for its duration has expired and may
be taken over. `Lease.decide` says what a replica does about a lease that it has read.
-/

namespace MachineProvider

/-- What a lease records. -/
structure LeaseSpec where
  /-- When the holder took the lease. -/
  acquireTime : Option Timestamp := none
  /-- Who leads; nobody when it is missing or empty. -/
  holderIdentity : Option String := none
  /-- How many seconds after its last renewal the lease expires. -/
  leaseDurationSeconds : Option Int32 := none
  /-- How often the lease has changed hands. -/
  leaseTransitions : Option Int32 := none
  preferredHolder : Option String := none
  /-- When the holder last renewed the lease. -/
  renewTime : Option Timestamp := none
  strategy : Option String := none
  deriving DecidableEq, Repr, Inhabited

/-- A lease. Its record may be missing. -/
structure Lease where
  metadata : Metadata := {}
  spec : Option LeaseSpec := none
  deriving DecidableEq, Inhabited

namespace LeaseSpec

/-- The names of the fields of the record. -/
def fieldNames : List String :=
  ["acquireTime", "holderIdentity", "leaseDurationSeconds", "leaseTransitions", "preferredHolder",
   "renewTime", "strategy"]

/-- Reads the record. Every field is optional. -/
def decode (json : Json) : Option LeaseSpec := do
  let members ← json.members?
  let fields ← (Json.obj members).record? fieldNames
  return {
    acquireTime := ← fields.optional "acquireTime" Metadata.time?
    holderIdentity := ← fields.optional "holderIdentity" Json.string?
    leaseDurationSeconds := ← fields.optional "leaseDurationSeconds" Json.int32?
    leaseTransitions := ← fields.optional "leaseTransitions" Json.int32?
    preferredHolder := ← fields.optional "preferredHolder" Json.string?
    renewTime := ← fields.optional "renewTime" Metadata.time?
    strategy := ← fields.optional "strategy" Json.string? }

/-- Writes the record, its times in whole microseconds. -/
def encode (s : LeaseSpec) : Json :=
  Json.ofMembers [
    ("acquireTime", Json.ifSome (fun t => .str t.toMicrosText) s.acquireTime),
    ("holderIdentity", Json.ifSome .str s.holderIdentity),
    ("leaseDurationSeconds", Json.ifSome (fun n => .int n.toInt) s.leaseDurationSeconds),
    ("leaseTransitions", Json.ifSome (fun n => .int n.toInt) s.leaseTransitions),
    ("preferredHolder", Json.ifSome .str s.preferredHolder),
    ("renewTime", Json.ifSome (fun t => .str t.toMicrosText) s.renewTime),
    ("strategy", Json.ifSome .str s.strategy)]

/-- Who holds the lease. -/
def holder? (s : LeaseSpec) : Option String :=
  s.holderIdentity.filter (!·.isEmpty)

/-- How often the lease has changed hands, never when it does not say. -/
def transitions (s : LeaseSpec) : Int32 :=
  s.leaseTransitions.getD 0

end LeaseSpec

/-- What to do about a lease. -/
inductive LeaseDecision where
  /-- The lease is ours and is renewed. -/
  | renew
  /-- The lease is nobody's or has expired, after so many changes of hands. -/
  | takeOver (transitions : Int32)
  /-- Somebody else holds the lease. -/
  | wait
  deriving DecidableEq, Repr, Inhabited

namespace Lease

/-- The type of leases. -/
def type : ObjectType where
  apiVersion := "coordination.k8s.io/v1"
  kind := "Lease"
  plural := "leases"

/-- Reads a lease. Its type must be right where it is given. -/
def decode (json : Json) : Option Lease := do
  let members ← json.members?
  if !json.isTextIfPresent "apiVersion" type.apiVersion ||
      !json.isTextIfPresent "kind" type.kind then none
  else
    let fields ← (Json.obj members).record? ["metadata", "spec"]
    return {
      metadata := (← fields.optional "metadata" Metadata.decode).getD {}
      spec := ← fields.optional "spec" LeaseSpec.decode }

/-- Writes a lease. -/
def encode (l : Lease) : Json :=
  Json.ofMembers [
    ("apiVersion", some (.str type.apiVersion)),
    ("kind", some (.str type.kind)),
    ("metadata", some l.metadata.encode),
    ("spec", Json.ifSome LeaseSpec.encode l.spec)]

/-- Whether a lease has expired. A lease that does not say when has expired. There is no answer
when the end of the lease is a date that cannot be represented. -/
def isExpired? (spec : LeaseSpec) (now : Timestamp) : Option Bool :=
  match spec.renewTime, spec.leaseDurationSeconds with
  | some renewed, some duration => do
    let ending ← renewed.addSeconds? duration.toInt
    return ending.isBefore now
  | _, _ => some true

/-- What a replica with an identity does about the record that it has read. -/
def decide (spec : Option LeaseSpec) (identity : String) (now : Timestamp) :
    Option LeaseDecision :=
  match spec with
  | none => some (.takeOver 0)
  | some s =>
    match s.holder? with
    | none => some (.takeOver s.transitions)
    | some holder =>
      if holder = identity then some .renew
      else do
        return if ← isExpired? s now then .takeOver s.transitions else .wait

/-- The holder of a lease only renews it. -/
theorem decide_of_holder {s : LeaseSpec} {identity : String} (now : Timestamp)
    (h : s.holder? = some identity) : decide (some s) identity now = some .renew := by
  simp [decide, h]

end Lease

end MachineProvider
