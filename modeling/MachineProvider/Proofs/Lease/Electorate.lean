import MachineProvider.Proofs.Lease.Campaign
import MachineProvider.Proofs.Lease.Replicas

/-!
# Electors at their own pace

Electors share a lease and a clock. Their rounds and their releases take as long as they take: between
any two questions of one of them the clock may move on and the others may do something. What takes
effect on the lease is noted, with who did it and when. Here an elector need not be a replica of one
configuration: each has its own timings.
-/

namespace MachineProvider

open Election

/-- Electors of a lease. Requests for another lease only fail. -/
structure Electorate (ι : Type) where
  «namespace» : String
  leaseName : String
  elector : ι → Elector
  named : ∀ i, (elector i).identity ≠ ""
  distinct : Function.Injective fun i => (elector i).identity

namespace Electorate

/-- What an elector did when it wrote the lease. -/
inductive Deed where
  /-- It was in a round of its own with this number, before which it read the clock, in microseconds. -/
  | campaign (number : Nat) (reading : Int)
  /-- It handed the lease back. -/
  | release

/-- A write that took effect. -/
structure Entry (ι : Type) where
  author : ι
  deed : Deed
  /-- When the write took effect, in microseconds. -/
  instant : Int
  stored : Lease

/-- A round in progress. -/
structure Attempt where
  number : Nat
  /-- What the clock showed when the round began. -/
  reading : Int
  rest : Election Round

/-- The lease, the clock and the electors. -/
structure World (ι : Type) where
  /-- Microseconds of the clock. -/
  clock : Int
  store : Store Lease
  /-- What took effect on the lease, the last entry first. -/
  log : List (Entry ι)
  /-- How many rounds an elector has begun. -/
  begun : ι → Nat
  /-- The round that an elector is in. -/
  attempt : ι → Option Attempt
  /-- What is left of handing the lease back. -/
  resignation : ι → Option (Election Unit)

variable {ι : Type}

/-- The world after an exchange of an elector with the API server, which may have stored a version. -/
def World.exchanged (w : World ι) (author : ι) (deed : Deed) : Option Lease → World ι
  | none => w
  | some v =>
    { w with store := w.store.put v, log := ⟨author, deed, w.clock, v⟩ :: w.log }

section Exchanged

variable (w : World ι) (author : ι) (deed : Deed) (stored : Option Lease)

@[simp] theorem World.clock_exchanged : (w.exchanged author deed stored).clock = w.clock := by
  cases stored <;> rfl

@[simp] theorem World.begun_exchanged : (w.exchanged author deed stored).begun = w.begun := by
  cases stored <;> rfl

@[simp] theorem World.attempt_exchanged : (w.exchanged author deed stored).attempt = w.attempt := by
  cases stored <;> rfl

@[simp] theorem World.resignation_exchanged :
    (w.exchanged author deed stored).resignation = w.resignation := by
  cases stored <;> rfl

/-- An exchange leaves the other entries of the log as they are. -/
theorem World.mem_log_exchanged {e : Entry ι} (other : e.author = author → e.deed ≠ deed) :
    e ∈ (w.exchanged author deed stored).log ↔ e ∈ w.log := by
  cases stored with
  | none => exact Iff.rfl
  | some v =>
      refine ⟨?_, List.mem_cons_of_mem _⟩
      intro member
      rcases List.mem_cons.mp member with rfl | old
      · exact absurd rfl (other rfl)
      · exact old

theorem World.versions_subset_exchanged :
    w.store.versions ⊆ (w.exchanged author deed stored).store.versions := by
  cases stored with
  | none => exact List.Subset.refl _
  | some v => exact List.subset_cons_self _ _

end Exchanged

section Exchange

variable {α : Type} («namespace» name : String) (wall : Timestamp) (store : Store Lease)

/-- A procedure goes on with the answer to a question about the lease, and the answer may be that a
version was stored. -/
inductive Exchange : Election α → Election α → Option Lease → Prop
  | nothing {q : Question} {next : Answer q → Election α} {a : Answer q}
    (served : Serves «namespace» name wall store store q a) :
    Exchange (.ask q next) (next a) none
  | stored {q : Question} {next : Answer q → Election α} {a : Answer q} {v : Lease}
    (served : Serves «namespace» name wall store (store.put v) q a) :
    Exchange (.ask q next) (next a) (some v)

end Exchange

/-- How things may begin: nobody does anything yet, and there may be any lease. -/
structure World.Begins (w : World ι) : Prop where
  lawful : w.store.Lawful
  log : w.log = []
  attempt : ∀ i, w.attempt i = none
  resignation : ∀ i, w.resignation i = none

variable [DecidableEq ι] (group : Electorate ι)

/-- What happens next. -/
inductive Step : World ι → World ι → Prop
  /-- Time passes. -/
  | passes {w : World ι} {later : Int} (forward : w.clock ≤ later) :
    Step w { w with clock := later }
  /-- An elector begins a round with a look at the clock. -/
  | begins {w : World ι} {i : ι} {next : Timestamp → Election Round} (free : w.attempt i = none)
    (opens : (group.elector i).round = .ask .now next) :
    Step w { w with
      begun := Function.update w.begun i (w.begun i + 1)
      attempt := Function.update w.attempt i
        (some ⟨w.begun i + 1, w.clock, next (.ofMicros w.clock)⟩) }
  /-- An elector is answered in a round. -/
  | asks {w : World ι} {i : ι} {attempt : Attempt} {rest : Election Round} {stored : Option Lease}
    (current : w.attempt i = some attempt)
    (exchange : Exchange group.namespace group.leaseName (.ofMicros w.clock) w.store attempt.rest
      rest stored) :
    Step w { w.exchanged i (.campaign attempt.number attempt.reading) stored with
      attempt := Function.update w.attempt i (some { attempt with rest }) }
  /-- A round is over, or is broken off. -/
  | ends {w : World ι} {i : ι} : Step w { w with attempt := Function.update w.attempt i none }
  /-- An elector begins to hand the lease back. -/
  | resigns {w : World ι} {i : ι} :
    Step w { w with
      resignation := Function.update w.resignation i (some (group.elector i).release) }
  /-- An elector is answered while it hands the lease back. -/
  | asksBack {w : World ι} {i : ι} {release rest : Election Unit} {stored : Option Lease}
    (current : w.resignation i = some release)
    (exchange : Exchange group.namespace group.leaseName (.ofMicros w.clock) w.store release rest
      stored) :
    Step w { w.exchanged i .release stored with
      resignation := Function.update w.resignation i (some rest) }

/-- Whether a run leads to a world. -/
def Reachable (w : World ι) : Prop :=
  ∃ start : World ι, start.Begins ∧ Relation.ReflTransGen group.Step start w

end Electorate

end MachineProvider
