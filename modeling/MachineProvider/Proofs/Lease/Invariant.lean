import MachineProvider.Proofs.Lease.Campaign
import MachineProvider.Proofs.Lease.Replicas

/-!
# The lease names its leader

A replica that leads is named by the lease and has renewed it not too long ago. `Invariant` puts this
together with what is known about replicas in the middle of a round. It leaves room for one leader
only (`Invariant.eq_of_leads`).
-/

namespace MachineProvider

open Procedure

namespace Election

variable {k : Knowledge} {store after : Store Lease} {wall : Timestamp} {n nm : String}
  {q : Question} {a : Answer q} {mayFollow : Option LeaseSpec → Option LeaseSpec → Prop}

/-- What a call leaves behind that asks only what it may: the lease as it was, or a new version whose
record may follow the one before. Only then the elector takes its write for accepted. -/
inductive Effect (mayFollow : Option LeaseSpec → Option LeaseSpec → Prop)
    (store after : Store Lease) (k k' : Knowledge) : Prop
  | kept (same : after = store) (unwritten : k'.wrote = k.wrote)
  | stored {v : Lease} (fresh : store.IsFresh v) (put : after = store.put v)
    (follows : mayFollow (Replicas.recorded store) (Replicas.recorded after))

/-- A lease that an elector knows was read before or has just been read. -/
theorem read_next (served : Serves n nm wall store after q a) {l : Lease}
    (known : (k.next q a).read = some l) : k.read = some l ∨ store.current = some l := by
  cases q with
  | now => exact .inl known
  | fetch m mm =>
      cases a with
      | ok lease =>
          obtain rfl := Option.some.inj known
          exact .inr served.2.2.1
      | error failure => exact .inl known
  | create m mm lease => cases a <;> exact .inl known
  | replace m mm lease => cases a <;> exact .inl known

theorem effect_of_serves (lawful : store.Lawful)
    (known : ∀ l, k.read = some l → l ∈ store.versions) (may : May mayFollow k q)
    (served : Serves n nm wall store after q a) :
    Effect mayFollow store after k (k.next q a) := by
  cases q with
  | now => exact .kept served.2 rfl
  | fetch m mm =>
      cases a with
      | ok lease => exact .kept served.2.2.2 rfl
      | error failure => exact .kept served rfl
  | create m mm lease =>
      cases a with
      | error failure => exact .kept served rfl
      | ok done =>
          obtain ⟨-, -, missing, v, fresh, content, put⟩ := served
          have follows : mayFollow none lease.spec := may
          rw [← content] at follows
          refine .stored fresh put ?_
          rw [put]
          simpa [Replicas.recorded, Store.put, missing] using follows
  | replace m mm lease =>
      cases a with
      | error failure => exact .kept served rfl
      | ok done =>
          obtain ⟨-, -, accepted, v, fresh, content, put⟩ := served
          obtain ⟨l, read, onto, follows⟩ := may
          have current := lawful.current_of_accepts (known l read) onto accepted
          rw [← content] at follows
          refine .stored fresh put ?_
          rw [put]
          simpa [Replicas.recorded, Store.put, current] using follows

theorem Effect.subset {k' : Knowledge} (h : Effect mayFollow store after k k') :
    store.versions ⊆ after.versions := by
  cases h with
  | kept same _ =>
      rw [same]
      exact List.Subset.refl _
  | @stored v fresh put follows =>
      rw [put]
      exact List.subset_cons_self _ _

/-- What an elector knows of the lease was stored at some time. -/
theorem known_next {k' : Knowledge} (lawful : store.Lawful)
    (known : ∀ l, k.read = some l → l ∈ store.versions)
    (served : Serves n nm wall store after q a) (effect : Effect mayFollow store after k k') :
    ∀ l, (k.next q a).read = some l → l ∈ after.versions := by
  intro l read
  rcases read_next served read with old | new
  · exact effect.subset (known l old)
  · exact effect.subset (lawful.mem_of_current new)

/-- The clock shows what an answer says. -/
theorem Serves.shows (served : Serves n nm wall store after q a) : Shows wall q a := by
  cases q with
  | now => exact served.1
  | fetch m mm => trivial
  | create m mm lease => trivial
  | replace m mm lease => trivial

end Election

namespace Replicas

open Election

variable {group : Replicas} {w w' : World} {id other : String} {since : Nat}

/-- Whether the lease names a replica, which has renewed it at an instant or later. -/
def Holds (group : Replicas) (w : World) (id : String) (since : Nat) : Prop :=
  ∃ s instant, recorded w.store = some s ∧ s.holderIdentity = some id ∧
    s.leaseDurationSeconds = some group.duration ∧ s.renewTime = some (w.wallAt instant) ∧
    since ≤ instant

/-- Whether a leader that renewed its lease at an instant may have a round at another one. -/
def OnSchedule (group : Replicas) (lastRenewed instant : Nat) : Prop :=
  ∃ n, instant = lastRenewed + n * group.config.retryPeriodSeconds.toNat * 1000 ∧
    n * group.config.retryPeriodSeconds.toNat ≤ group.config.secondsToGiveUp

/-- What is true of the knowledge of a replica. -/
structure Informed (group : Replicas) (w : World) (id : String) (k : Knowledge) : Prop where
  read : ∀ l, k.read = some l → l ∈ w.store.versions
  wrote : k.wrote = true → group.Holds w id w.clock

/-- What is true of a replica that is in a round. A leader that is in a round holds the lease, and
finds its name in it. -/
def Purposeful (group : Replicas) (w : World) (id : String) (k : Knowledge) : Purpose → Prop
  | .acquire => True
  | .renew lastRenewed =>
    group.Holds w id lastRenewed ∧ group.OnSchedule lastRenewed w.clock ∧
      ∀ l, k.read = some l → ∃ s, l.spec = some s ∧ s.holderIdentity = some id
  | .conclude _ => True

/-- What is true of a replica by what it is doing. -/
def Fits (group : Replicas) (w : World) (id : String) : Stage → Prop
  | .idle => True
  | .waiting _ => True
  | .retired => True
  | .stalled => False
  | .leading lastRenewed due =>
    group.Holds w id lastRenewed ∧ w.clock ≤ due ∧ group.OnSchedule lastRenewed due
  | .inRound purpose rest =>
    ∃ k, group.Informed w id k ∧ group.Purposeful w id k purpose ∧
      rest.Follows (discipline (w.wallAt w.clock) ((group.elector id).Campaigns (w.wallAt w.clock)))
        ((group.elector id).Reports (w.wallAt w.clock)) k
  | .resigning rest =>
    ∃ k : Knowledge, (∀ l, k.read = some l → l ∈ w.store.versions) ∧
      rest.Follows (discipline (w.wallAt w.clock) (group.elector id).Resigns) (fun _ _ => True) k

/-- What is true in every run of replicas whose leaders give up in time. -/
structure Invariant (group : Replicas) (w : World) : Prop where
  lawful : w.store.Lawful
  agrees : group.Agrees (recorded w.store)
  fits : ∀ id ∈ group.identities, group.Fits w id (w.stage id)

theorem Begins.invariant (h : group.Begins w) : group.Invariant w where
  lawful := h.lawful
  agrees := h.agrees
  fits := by
    intro id _
    rw [h.idle id]
    trivial

theorem Holds.mono {earlier : Nat} (h : group.Holds w id since) (le : earlier ≤ since) :
    group.Holds w id earlier := by
  obtain ⟨s, instant, stands, holder, lasts, renewed, late⟩ := h
  exact ⟨s, instant, stands, holder, lasts, renewed, le.trans late⟩

/-- Only one replica holds the lease. -/
theorem Holds.eq {since' : Nat} (h : group.Holds w id since) (h' : group.Holds w other since') :
    id = other := by
  obtain ⟨s, -, stands, holder, -⟩ := h
  obtain ⟨s', -, stands', holder', -⟩ := h'
  rw [stands, Option.some.injEq] at stands'
  rw [stands', holder'] at holder
  exact (Option.some.inj holder).symm

/-- The stage of a leader says that it holds the lease. -/
theorem Fits.holds {stage : Stage} (h : group.Fits w id stage) (leads : stage.Leads) :
    ∃ since, group.Holds w id since := by
  cases stage with
  | leading lastRenewed due => exact ⟨lastRenewed, h.1⟩
  | stalled => exact h.elim
  | inRound purpose rest =>
      cases purpose with
      | renew lastRenewed =>
          obtain ⟨k, -, ⟨holds, -⟩, -⟩ := h
          exact ⟨lastRenewed, holds⟩
      | acquire => exact leads.elim
      | conclude lastRenewed => exact leads.elim
  | idle => exact leads.elim
  | waiting due => exact leads.elim
  | retired => exact leads.elim
  | resigning rest => exact leads.elim

/-- At most one replica leads. -/
theorem Invariant.eq_of_leads (h : group.Invariant w) (member : id ∈ group.identities)
    (member' : other ∈ group.identities) (leads : (w.stage id).Leads)
    (leads' : (w.stage other).Leads) : id = other := by
  obtain ⟨since, holds⟩ := (h.fits id member).holds leads
  obtain ⟨since', holds'⟩ := (h.fits other member').holds leads'
  exact holds.eq holds'

end Replicas

end MachineProvider
