import MachineProvider.Proofs.Lease.Course
import MachineProvider.Proofs.Lease.Timing

/-!
# What a round adds up

A round adds twice: the duration of a lease that somebody else holds to its last renewal, and one to
the number of changes of hands of a lease that it takes. Both come from a record that anybody may have
written. `Elector.adds_up_iff` says what a round writes, and that its sums are right exactly when they
can be represented: a round crashes on a lease whose end cannot be represented, and the number of
changes of hands starts again below zero after the largest one.
-/

namespace MachineProvider

open Election

/-- The number of changes of hands goes up by one, unless it is the largest one. -/
theorem Int32.toInt_add_one_iff (n : Int32) : (n + 1).toInt = n.toInt + 1 ↔ n ≠ Int32.maxValue := by
  constructor
  · rintro grows rfl
    exact absurd grows (by decide)
  · intro small
    have below : n.toInt < 2 ^ 31 - 1 := by
      have most : n.toInt ≤ 2 ^ 31 - 1 := Int.le_sub_one_of_lt n.toInt_lt
      apply lt_of_le_of_ne most
      intro same
      exact small (Int32.toInt_inj.mp same)
    have above := n.le_toInt
    rw [Int32.toInt_add, Int32.toInt_one]
    apply Int.bmod_eq_of_le_mul_two
    · omega
    · omega

namespace Lease

variable {identity : String} {now : Timestamp} {before : Option LeaseSpec}

/-- Whether the end of a lease with a record cannot be represented. -/
def IsEndless (before : Option LeaseSpec) : Prop :=
  ∃ s renewed duration, before = some s ∧ s.renewTime = some renewed ∧
    s.leaseDurationSeconds = some duration ∧ renewed.addSeconds? duration.toInt = none

/-- There is no answer to whether a lease has expired exactly when its end cannot be represented. -/
theorem isExpired?_eq_none_iff (s : LeaseSpec) (now : Timestamp) :
    isExpired? s now = none ↔ IsEndless (some s) := by
  constructor
  · intro none
    cases renewTime : s.renewTime with
    | none => simp [isExpired?, renewTime] at none
    | some renewed =>
        cases lasts : s.leaseDurationSeconds with
        | none => simp [isExpired?, renewTime, lasts] at none
        | some duration =>
            cases ending : renewed.addSeconds? duration.toInt with
            | none => exact ⟨s, renewed, duration, rfl, renewTime, lasts, ending⟩
            | some instant => simp [isExpired?, renewTime, lasts, ending] at none
  · rintro ⟨_, renewed, duration, ⟨⟩, renewTime, lasts, endless⟩
    simp [isExpired?, renewTime, lasts, endless]

/-- Whether a round on a lease adds up something that cannot be represented. -/
inductive Overflows (identity : String) (now : Timestamp) (before : Option LeaseSpec) : Prop
  /-- The end of a lease that somebody else holds. -/
  | ending (other : IsHeldByOther identity before) (endless : IsEndless before)
  /-- The number of changes of hands of a lease that is taken. -/
  | transitions (takes : decide before identity now = some (.takeOver Int32.maxValue))

/-- A round on a lease crashes exactly when somebody else holds the lease and its end cannot be
represented. -/
theorem decide_eq_none_iff :
    decide before identity now = none ↔ IsHeldByOther identity before ∧ IsEndless before := by
  have decided := decides before identity now
  constructor
  · intro none
    rw [none] at decided
    cases decided with
    | endless stands other endless =>
        subst stands
        exact ⟨other, (isExpired?_eq_none_iff _ now).mp endless⟩
  · rintro ⟨⟨holder, held, other⟩, endless⟩
    obtain ⟨s, -, -, rfl, -⟩ := id endless
    have none := (isExpired?_eq_none_iff s now).mpr endless
    generalize decide (some s) identity now = decision at decided
    cases decided with
    | vacant vacant => simp [held] at vacant
    | own own =>
        rw [held, Option.some.injEq] at own
        exact absurd own other
    | expired stands _ expired =>
        cases stands
        simp [none] at expired
    | alive stands _ alive =>
        cases stands
        simp [none] at alive
    | endless => rfl

theorem overflows_iff :
    Overflows identity now before ↔
      decide before identity now = none ∨
        decide before identity now = some (.takeOver Int32.maxValue) := by
  constructor
  · rintro (⟨other, endless⟩ | takes)
    · exact .inl (decide_eq_none_iff.mpr ⟨other, endless⟩)
    · exact .inr takes
  · rintro (none | takes)
    · obtain ⟨other, endless⟩ := decide_eq_none_iff.mp none
      exact .ending other endless
    · exact .transitions takes

end Lease

namespace Elector

variable {e : Elector} {now : Timestamp}

/-- How a lease is written over. -/
inductive Revises (e : Elector) (now : Timestamp) (lease written : Lease) : Prop
  /-- Its holder changes the time of the last renewal. -/
  | renews (own : Lease.holder? lease.spec = some e.identity)
    (stands : written = { lease with
      spec := some { lease.spec.getD {} with renewTime := some now } })
  /-- Another elector changes the holder, the duration, both times and the number of changes of
  hands. -/
  | takes (count : Int32) (other : Lease.holder? lease.spec ≠ some e.identity)
    (stands : written = { lease with
      spec := some { lease.spec.getD {} with
        holderIdentity := some e.identity
        leaseDurationSeconds := some e.recordedDuration
        acquireTime := some now
        renewTime := some now
        leaseTransitions := some count } })

/-- Whether a round on a lease comes to an end and, when it takes the lease, counts one more change of
hands than there were before. -/
structure AddsUp (e : Elector) (lease : Lease) (result : Round) (written : List Lease) : Prop where
  ends : result ≠ .crashed
  counts : ∀ l ∈ written, Lease.holder? lease.spec ≠ some e.identity →
    (Lease.transitions l.spec).toInt = (Lease.transitions lease.spec).toInt + 1

/-- A round that treats a lease writes over it only what it should. -/
theorem Treats.revises {lease : Lease} {result : Round} {written : List Lease}
    (treats : e.Treats now lease result written) : ∀ l ∈ written, e.Revises now lease l := by
  intro l member
  cases treats with
  | crashes => cases member
  | waits => cases member
  | renews decided =>
      obtain rfl := List.mem_singleton.mp member
      exact .renews (Lease.holder?_of_renew decided) rfl
  | takes decided =>
      obtain rfl := List.mem_singleton.mp member
      exact .takes _ (Lease.transitions_of_takeOver decided).2 rfl

/-- The sums of a round that treats a lease are right exactly when they can be represented. -/
theorem Treats.addsUp_iff {lease : Lease} {result : Round} {written : List Lease}
    (treats : e.Treats now lease result written) :
    e.AddsUp lease result written ↔ ¬ Lease.Overflows e.identity now lease.spec := by
  rw [Lease.overflows_iff, not_or]
  cases treats with
  | crashes decided =>
      rw [decided]
      exact iff_of_false (fun sound => sound.ends rfl) (fun ends => ends.1 rfl)
  | waits decided =>
      rw [decided]
      refine iff_of_true ⟨by simp, ?_⟩ (by simp)
      intro l member
      cases member
  | renews decided =>
      have own := Lease.holder?_of_renew decided
      rw [decided]
      refine iff_of_true ⟨roundOfWrite_ne_crashed _, ?_⟩ (by simp)
      intro l _ other
      exact absurd own other
  | takes decided =>
      obtain ⟨rfl, other⟩ := Lease.transitions_of_takeOver decided
      rw [decided, Option.some.injEq, LeaseDecision.takeOver.injEq, ← ne_eq _ Int32.maxValue,
        ← Int32.toInt_add_one_iff]
      constructor
      · intro sound
        have grows := sound.counts _ (List.mem_singleton_self _) other
        exact ⟨by simp, grows⟩
      · rintro ⟨-, grows⟩
        refine ⟨roundOfWrite_ne_crashed _, ?_⟩
        intro l member _
        obtain rfl := List.mem_singleton.mp member
        exact grows

/-- Whatever a round is answered, it writes over a lease only what it should, and what it adds up is
right exactly when all of it can be represented. -/
theorem adds_up_iff (e : Elector) :
    e.round.Follows transcript (fun result heard =>
      ∀ now ∈ heard.filterMap Exchange.clock?, ∀ lease ∈ heard.filterMap Exchange.lease?,
        (∀ l ∈ heard.filterMap Exchange.written?, e.Revises now lease l) ∧
          (e.AddsUp lease result (heard.filterMap Exchange.written?) ↔
            ¬ Lease.Overflows e.identity now lease.spec)) [] := by
  refine goes_round.mono ?_
  intro result heard goes now reading lease read
  have treats := goes.treats reading read
  exact ⟨treats.revises, treats.addsUp_iff⟩

/-- Another elector's lease, renewed last at some time, which has changed hands so often. -/
def leaseOfOther (renewed : Timestamp) (transitions : Int32) : Lease where
  spec := some
    { holderIdentity := some "pod-a"
      leaseDurationSeconds := some 15
      leaseTransitions := some transitions
      renewTime := some renewed }

/-- How the questions of a round at the beginning of 1970 about a lease are answered. -/
def answerOn (lease : Lease) : (q : Question) → Answer q
  | .now => .ofMicros 0
  | .fetch .. => .ok lease
  | .create .. => .ok ()
  | .replace .. => .ok ()

/-- An elector for which a lease lasts 15 seconds. -/
def podB : Elector where
  leaseName := "leader"
  «namespace» := "system"
  identity := "pod-b"
  leaseDuration := .ofSeconds 15
  renewDeadline := .ofSeconds 10
  retryPeriod := .ofSeconds 2

/-- A round is right about a lease that has long expired. It crashes on one that was renewed in the last
second that can be represented, and counts from the largest number of changes of hands to one below
zero. -/
theorem adds_up_of_samples :
    let run lease := podB.round.run (noting (answerOn lease)) []
    let addsUp lease :=
      podB.AddsUp lease (run lease).1 ((run lease).2.filterMap Exchange.written?)
    addsUp (leaseOfOther (.ofMicros (-15000001)) 3) ∧
      ¬ addsUp (leaseOfOther ⟨Timestamp.lastSecond, 0⟩ 3) ∧
      ¬ addsUp (leaseOfOther (.ofMicros (-15000001)) Int32.maxValue) := by
  intro run addsUp
  have told (lease : Lease) (reading : .ofMicros 0 ∈ (run lease).2.filterMap Exchange.clock?)
      (read : lease ∈ (run lease).2.filterMap Exchange.lease?) : addsUp lease ↔
        ¬ (Lease.decide lease.spec "pod-b" (.ofMicros 0) = none ∨
          Lease.decide lease.spec "pod-b" (.ofMicros 0) = some (.takeOver Int32.maxValue)) := by
    rw [← Lease.overflows_iff]
    exact (follows_noting (answerOn lease) (adds_up_iff podB) _ reading _ read).2
  refine ⟨?_, ?_, ?_⟩
  · exact (told _ (by decide) (by decide)).mpr (by decide)
  · exact (not_congr (told _ (by decide) (by decide))).mpr (by decide)
  · exact (not_congr (told _ (by decide) (by decide))).mpr (by decide)

end Elector

end MachineProvider
