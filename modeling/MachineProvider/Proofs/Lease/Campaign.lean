import MachineProvider.Lease.Election
import MachineProvider.Proofs.Discipline
import MachineProvider.Proofs.Lease.Decision
import MachineProvider.Proofs.Store

/-!
# What electors write

An elector writes a lease only over the version that it has read. In a round it renews its own lease
or takes over a lease that is free; when it hands the lease back, it takes its name out of it.
`follows_round` and `follows_release` say so for every sequence of answers.
-/

namespace MachineProvider

open Procedure

namespace Election

/-- What an elector has learned since it began to ask. -/
structure Knowledge where
  /-- The lease that was read. -/
  read : Option Lease := none
  /-- Whether a write was accepted. -/
  wrote : Bool := false

/-- What is known after an answer. -/
def Knowledge.next (k : Knowledge) : (q : Question) → Answer q → Knowledge
  | .fetch .., .ok lease => { k with read := some lease }
  | .create .., .ok () => { k with wrote := true }
  | .replace .., .ok () => { k with wrote := true }
  | _, _ => k

/-- Whether something may be asked: a lease is written over the version that was read, and its record
may follow the one before. -/
def May (mayFollow : Option LeaseSpec → Option LeaseSpec → Prop) (k : Knowledge) :
    Question → Prop
  | .now => True
  | .fetch .. => True
  | .create _ _ lease => mayFollow none lease.spec
  | .replace _ _ lease =>
    ∃ l, k.read = some l ∧ version lease = version l ∧ mayFollow l.spec lease.spec

/-- Whether an answer fits the clock on the wall. -/
def Shows (wall : Timestamp) : (q : Question) → Answer q → Prop
  | .now, t => t = wall
  | .fetch .., _ => True
  | .create .., _ => True
  | .replace .., _ => True

/-- The rules for what electors write while the clock shows the same. -/
def discipline (wall : Timestamp) (mayFollow : Option LeaseSpec → Option LeaseSpec → Prop) :
    Discipline Question Answer Knowledge where
  next := Knowledge.next
  may := May mayFollow
  expects _ := Shows wall

/-- Whether a question is about the time. -/
def Question.AsksTime : Question → Prop
  | .now => True
  | _ => False

/-- The rules for what electors write at any time, when they have looked at the clock. -/
def rules (mayFollow : Option LeaseSpec → Option LeaseSpec → Prop) :
    Discipline Question Answer Knowledge where
  next := Knowledge.next
  may k q := ¬ q.AsksTime ∧ May mayFollow k q
  expects _ _ _ := True

/-- What is written at any time may also be written while the clock shows the same. -/
theorem follows_discipline {α : Type} {wall : Timestamp}
    {mayFollow : Option LeaseSpec → Option LeaseSpec → Prop} {post : α → Knowledge → Prop}
    {p : Election α} {k : Knowledge} (h : p.Follows (rules mayFollow) post k) :
    p.Follows (discipline wall mayFollow) post k :=
  h.weaken rfl (fun _ _ may => may.2) fun _ _ _ _ => trivial

end Election

namespace Elector

open Election

variable (e : Elector) (wall : Timestamp)

/-- Whether a record says that the elector has just renewed its lease. -/
structure Claims (spec : LeaseSpec) : Prop where
  holder : spec.holderIdentity = some e.identity
  renewTime : spec.renewTime = some wall
  duration : spec.leaseDurationSeconds = some e.recordedDuration

/-- How a record follows the one before in a round. -/
inductive Campaigns (before after : Option LeaseSpec) : Prop
  /-- The elector renews its own lease. -/
  | renews {spec : LeaseSpec} (stood : before = some spec)
    (holder : spec.holderIdentity = some e.identity)
    (stands : after = some { spec with renewTime := some wall })
  /-- The elector takes a lease that is free. -/
  | takes {transitions : Int32} {spec : LeaseSpec}
    (free : Lease.decide before e.identity wall = some (.takeOver transitions))
    (stands : after = some spec) (claims : e.Claims wall spec)

/-- How a record follows the one before when the lease is handed back. -/
structure Resigns (before after : Option LeaseSpec) : Prop where
  stood : ∃ spec, before = some spec ∧ spec.holderIdentity = some e.identity
  vacant : ∀ spec, after = some spec → spec.holderIdentity = none

/-- What the result of a round says about what was learned in it. -/
def Reports : Round → Knowledge → Prop
  | .held, k => k.wrote = true
  | .notHeld, _ => True
  | .failed _, _ => True
  | .crashed, k => ∃ l, k.read = some l ∧ Lease.decide l.spec e.identity wall = none

/-- What the result of a round tells. The round is a success exactly when a write was accepted. -/
structure Concludes (result : Round) (k : Knowledge) : Prop where
  held_iff : result = .held ↔ k.wrote = true
  reports : e.Reports wall result k

theorem claims_newLease : ∃ spec, (e.newLease wall).spec = some spec ∧ e.Claims wall spec :=
  ⟨_, rfl, rfl, rfl, rfl⟩

theorem claims_taken (lease : Lease) (transitions : Int32) :
    ∃ spec, (e.taken lease transitions wall).spec = some spec ∧ e.Claims wall spec :=
  ⟨_, rfl, rfl, rfl, rfl⟩

variable {e wall}

/-- A round without an accepted write is not a success. -/
theorem concludes_of_unwritten {k : Knowledge} {result : Round} (other : result ≠ .held)
    (unwritten : k.wrote = false) (reports : e.Reports wall result k) :
    e.Concludes wall result k where
  held_iff := iff_of_false other (by simp [unwritten])
  reports := reports

/-- A round that ends with a write is a success exactly when the write was accepted. -/
theorem concludes_roundOfWrite {k k' : Knowledge} {result : Except ApiFailure Unit}
    (unwritten : k.wrote = false)
    (wrote : k'.wrote = match result with | .ok _ => true | .error _ => k.wrote) :
    e.Concludes wall (roundOfWrite result) k' := by
  cases result with
  | ok u => exact ⟨iff_of_true rfl wrote, wrote⟩
  | error failure =>
      have unwritten' : k'.wrote = false := wrote.trans unwritten
      simp only [roundOfWrite]
      split
      · exact concludes_of_unwritten nofun unwritten' trivial
      · exact concludes_of_unwritten nofun unwritten' trivial

/-- What a decision leads to is written over the lease that was decided on. -/
theorem follows_carryOut {k : Knowledge} {lease : Lease} (known : k.read = some lease)
    (unwritten : k.wrote = false) :
    (e.carryOut lease wall (Lease.decide lease.spec e.identity wall)).Follows
      (rules (e.Campaigns wall)) (e.Concludes wall) k := by
  have landed (l : Lease) (result : Except ApiFailure Unit) :
      e.Concludes wall (roundOfWrite result)
        (k.next (.replace e.namespace e.leaseName l) result) := by
    apply concludes_roundOfWrite unwritten
    cases result <;> rfl
  cases decided : Lease.decide lease.spec e.identity wall with
  | none => exact concludes_of_unwritten nofun unwritten ⟨lease, known, decided⟩
  | some decision =>
      cases decision with
      | wait => exact concludes_of_unwritten nofun unwritten trivial
      | renew =>
          obtain ⟨spec, stood, holder⟩ := Lease.holder_of_renew decided
          refine ⟨⟨id, lease, known, rfl, .renews stood holder ?_⟩, fun result _ => landed _ result⟩
          simp [renewed, stood]
      | takeOver transitions =>
          obtain ⟨spec, stands, claims⟩ := claims_taken e wall lease transitions
          exact ⟨⟨id, lease, known, rfl, .takes decided stands claims⟩,
            fun result _ => landed _ result⟩

theorem resigns_released {lease : Lease} (held : e.isHolderOf lease = true) :
    e.Resigns lease.spec (released lease).spec := by
  cases stood : lease.spec with
  | none => simp [isHolderOf, stood] at held
  | some spec =>
      refine ⟨⟨spec, rfl, by simpa [isHolderOf, stood] using held⟩, ?_⟩
      rintro after stands
      simp only [released, stood, Option.map_some, Option.some.injEq] at stands
      rw [← stands]

/-- A round looks at the clock first. Whatever the elector is answered then, and however long it takes,
it writes only what it may at the time that the clock showed. -/
theorem follows_of_round {next : Timestamp → Election Round} (opens : e.round = .ask .now next) :
    (next wall).Follows (rules (e.Campaigns wall)) (e.Concludes wall) {} := by
  obtain rfl := eq_of_heq (Procedure.ask.inj opens).2
  dsimp only
  split
  · exact concludes_of_unwritten nofun rfl trivial
  refine ⟨⟨id, trivial⟩, ?_⟩
  rintro answer -
  have unwritten : (({} : Knowledge).next (.fetch e.namespace e.leaseName) answer).wrote = false := by
    cases answer <;> rfl
  dsimp only
  split
  · exact concludes_of_unwritten nofun unwritten trivial
  · obtain ⟨spec, stands, claims⟩ := claims_newLease e wall
    refine ⟨⟨id, .takes rfl stands claims⟩, fun result _ => ?_⟩
    apply concludes_roundOfWrite unwritten
    cases result <;> rfl
  · rename_i lease found
    obtain rfl := ApiAnswer.eq_of_present found
    exact follows_carryOut rfl rfl

/-- Whatever an elector is answered in a round, it writes only what it may. -/
theorem follows_round : e.round.Follows (discipline wall (e.Campaigns wall)) (e.Reports wall) {} := by
  refine ⟨trivial, ?_⟩
  rintro t rfl
  refine follows_discipline ((follows_of_round rfl).mono ?_)
  exact fun _ _ concludes => concludes.reports

/-- An elector that hands its lease back writes nothing but that, at any time. -/
theorem follows_release : e.release.Follows (rules e.Resigns) (fun _ _ => True) {} := by
  unfold release
  split
  · trivial
  refine ⟨⟨id, trivial⟩, ?_⟩
  rintro (failure | lease) -
  · trivial
  dsimp only
  split
  · rename_i held
    exact ⟨⟨id, lease, rfl, rfl, resigns_released held⟩, fun _ _ => trivial⟩
  · trivial

end Elector

end MachineProvider
