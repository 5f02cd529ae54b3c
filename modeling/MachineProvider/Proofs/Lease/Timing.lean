import MachineProvider.Lease.Election
import Mathlib.Algebra.Order.Floor.Div

/-!
# The timings of a leader election

Two spans of time decide whether the leader of an election has given up when another replica takes
its lease over. A leader gives up in the first round after the deadline, and rounds take place once
in a retry period (`secondsToGiveUp`). The others wait until the lease expires, and a lease cannot
record an arbitrarily long duration (`secondsToTakeOver`).
-/

namespace MachineProvider

namespace Timestamp

/-- The point in time so many microseconds after the beginning of 1970. -/
def ofMicros (micros : Int) : Timestamp where
  seconds := micros / 1000000
  nanos := (micros % 1000000).toNat * 1000

theorem nanos_ofMicros_lt (micros : Int) : (ofMicros micros).nanos < nanosPerSecond := by
  have below : micros % 1000000 < 1000000 := Int.emod_lt_of_pos _ (by decide)
  have above : 0 ≤ micros % 1000000 := Int.emod_nonneg _ (by decide)
  simp only [ofMicros, nanosPerSecond]
  omega

@[simp] theorem ofMicros_isBefore (a b : Int) :
    (ofMicros a).isBefore (ofMicros b) = decide (a < b) := by
  have order : (a / 1000000 < b / 1000000 ∨ a / 1000000 = b / 1000000 ∧
      (a % 1000000).toNat * 1000 < (b % 1000000).toNat * 1000) ↔ a < b := by
    omega
  rw [Bool.eq_iff_iff, decide_eq_true_iff, ← order]
  simp only [isBefore, Bool.or_eq_true, Bool.and_eq_true, decide_eq_true_eq]
  rfl

/-- Outside of a leap second only the seconds of a point in time are added to. -/
theorem addSeconds?_of_nanos_lt {t : Timestamp} (regular : t.nanos < nanosPerSecond) (span : Int) :
    t.addSeconds? span =
      if firstSecond ≤ t.seconds + span ∧ t.seconds + span ≤ lastSecond then
        some ⟨t.seconds + span, t.nanos⟩
      else none := by
  simp [addSeconds?, regular]

theorem addSeconds?_ofMicros (micros span : Int) :
    (ofMicros micros).addSeconds? span =
      if firstSecond ≤ micros / 1000000 + span ∧ micros / 1000000 + span ≤ lastSecond then
        some (ofMicros (micros + span * 1000000))
      else none := by
  have sum : ofMicros (micros + span * 1000000) =
      ⟨(ofMicros micros).seconds + span, (ofMicros micros).nanos⟩ := by
    simp only [ofMicros, Timestamp.mk.injEq]
    omega
  rw [addSeconds?_of_nanos_lt (nanos_ofMicros_lt micros), sum]
  rfl

end Timestamp

namespace Lease

open Timestamp

variable {s : LeaseSpec} {renewed now : Int} {duration : Int32}

/-- A lease that has expired was renewed longer ago than it lasts. -/
theorem lt_of_isExpired? (renewTime : s.renewTime = some (ofMicros renewed))
    (lasts : s.leaseDurationSeconds = some duration)
    (expired : isExpired? s (ofMicros now) = some true) :
    renewed + duration.toInt * 1000000 < now := by
  simp only [isExpired?, renewTime, lasts, addSeconds?_ofMicros] at expired
  split at expired
  · simpa using expired
  · cases expired

/-- A lease that was renewed longer ago than it lasts has expired, provided that its end can be
represented. -/
theorem isExpired?_of_lt (renewTime : s.renewTime = some (ofMicros renewed))
    (lasts : s.leaseDurationSeconds = some duration)
    (representable : firstSecond ≤ renewed / 1000000 + duration.toInt ∧
      renewed / 1000000 + duration.toInt ≤ lastSecond)
    (elapsed : renewed + duration.toInt * 1000000 < now) :
    isExpired? s (ofMicros now) = some true := by
  simp [isExpired?, renewTime, lasts, addSeconds?_ofMicros, representable, elapsed]

end Lease

namespace LeaderElectionConfig

/-- After how many seconds without a renewal a leader gives up: in the first round that is not before
the deadline. -/
def secondsToGiveUp (c : LeaderElectionConfig) : Nat :=
  (c.renewDeadlineSeconds.toNat ⌈/⌉ c.retryPeriodSeconds.toNat) * c.retryPeriodSeconds.toNat

/-- After how many seconds without a renewal others take the lease over: when the duration that it
records has passed. -/
def secondsToTakeOver (c : LeaderElectionConfig) : Nat :=
  min c.leaseDurationSeconds.toNat (2 ^ 31 - 1)

variable {c : LeaderElectionConfig}

/-- What an enabled election without a fault can rely on. -/
structure Sound (c : LeaderElectionConfig) : Prop where
  named : c.leaseName.isEmpty = false
  retry_pos : 0 < c.retryPeriodSeconds.toNat
  retry_lt : c.retryPeriodSeconds.toNat < c.renewDeadlineSeconds.toNat
  deadline_lt : c.renewDeadlineSeconds.toNat < c.leaseDurationSeconds.toNat

theorem sound_of_fault? (enabled : c.enabled = true) (valid : c.fault? = none) : c.Sound := by
  simp only [fault?, enabled, Bool.not_true, Bool.false_eq_true, if_false] at valid
  split at valid
  · cases valid
  split at valid
  · cases valid
  rename_i notBlank ordered
  simp only [inOrder, Bool.not_eq_true', Bool.not_eq_false, Bool.and_eq_true,
    decide_eq_true_eq, UInt64.lt_iff_toNat_lt] at ordered
  obtain ⟨⟨retry_pos, retry_lt⟩, deadline_lt⟩ := ordered
  refine ⟨?_, by simpa using retry_pos, retry_lt, deadline_lt⟩
  by_contra empty
  have nothing : c.leaseName = "" := by simpa using empty
  rw [nothing] at notBlank
  exact notBlank (by decide)

/-- A leader whose round failed before the deadline has another round before it gives up. -/
theorem Sound.next_round_le (sound : c.Sound) {n : Nat}
    (early : n * c.retryPeriodSeconds.toNat < c.renewDeadlineSeconds.toNat) :
    (n + 1) * c.retryPeriodSeconds.toNat ≤ c.secondsToGiveUp := by
  have enough : c.renewDeadlineSeconds.toNat ≤ c.retryPeriodSeconds.toNat •
      (c.renewDeadlineSeconds.toNat ⌈/⌉ c.retryPeriodSeconds.toNat) :=
    le_smul_ceilDiv sound.retry_pos
  apply Nat.mul_le_mul_right
  by_contra few
  have bound := Nat.mul_le_mul_left c.retryPeriodSeconds.toNat (Nat.le_of_lt_succ (not_le.mp few))
  rw [smul_eq_mul] at enough
  rw [Nat.mul_comm] at early
  omega

/-- The rounds before a leader gives up are before the deadline. -/
theorem Sound.lt_deadline (sound : c.Sound) {n : Nat}
    (early : n * c.retryPeriodSeconds.toNat < c.secondsToGiveUp) :
    n * c.retryPeriodSeconds.toNat < c.renewDeadlineSeconds.toNat := by
  have few : n < c.renewDeadlineSeconds.toNat ⌈/⌉ c.retryPeriodSeconds.toNat :=
    Nat.lt_of_mul_lt_mul_right early
  by_contra late
  rw [not_lt, Nat.mul_comm, ← smul_eq_mul, ← ceilDiv_le_iff_le_smul sound.retry_pos] at late
  omega

end LeaderElectionConfig

namespace Elector

variable (config : LeaderElectionConfig) (env : Environment) (identity : String)

/-- The duration that the electors of a configuration record. -/
theorem toInt_recordedDuration :
    (ofConfig config env identity).recordedDuration.toInt = config.secondsToTakeOver := by
  have bound : Int32.maxValue.toInt = 2 ^ 31 - 1 := rfl
  simp only [recordedDuration, ofConfig, Delay.seconds_ofSeconds, bound,
    LeaderElectionConfig.secondsToTakeOver]
  rw [Int32.toInt_ofInt_of_le (by omega) (by omega)]
  omega

end Elector

end MachineProvider
