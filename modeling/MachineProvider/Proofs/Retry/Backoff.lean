import MachineProvider.Proofs.FailureCount

/-!
# How the delays grow

A configuration asks for delays that double with each failure after the first until they have reached
its maximum (`BackoffConfig.doubled`). Numbers of 64 bits are enough for that: what would not fit is
longer than any maximum (`BackoffConfig.seconds_eq_doubled`). But the delays stop to double after
`maxDoublings` doublings, and a maximum that is longer than that is never reached
(`BackoffConfig.delay_eq_doubled_iff`).
-/

namespace MachineProvider

theorem Config.fault?_of_validate {c : Config} (valid : c.validate = .ok ()) : c.fault? = none := by
  cases found : c.fault? with
  | none => rfl
  | some fault => simp [Config.validate, found] at valid

namespace BackoffConfig

variable (b : BackoffConfig)

/-- The seconds of a delay that doubles with each failure after the first and never exceeds the
maximum. -/
def doubled (failures : Nat) : Nat :=
  min (b.baseSeconds.toNat * 2 ^ (failures - 1)) b.maxSeconds.toNat

/-- Whether the first delay is there and does not exceed the maximum. -/
structure IsOrdered : Prop where
  base_pos : 0 < b.baseSeconds.toNat
  base_le : b.baseSeconds.toNat ≤ b.maxSeconds.toNat

/-- The delays of a configuration that is accepted are in order. -/
theorem isOrdered_of_validate {c : Config} (valid : c.validate = .ok ()) : c.backoff.IsOrdered := by
  have faultless := Config.fault?_of_validate valid
  simp only [Config.fault?] at faultless
  split_ifs at faultless with _ _ _ _ _ _ disordered
  simp only [Bool.or_eq_true, decide_eq_true_eq, not_or, UInt64.not_lt] at disordered
  obtain ⟨there, base_le⟩ := disordered
  constructor
  · rw [Nat.pos_iff_ne_zero]
    intro zero
    exact there (UInt64.toNat_inj.mp zero)
  · exact UInt64.le_iff_toNat_le.mp base_le

/-- The delays double as often as they can. -/
theorem seconds_eq_doubled (failures : Nat) :
    b.seconds failures = b.doubled (min failures (maxDoublings + 1)) := by
  have exponent : min (failures - 1) maxDoublings = min failures (maxDoublings + 1) - 1 := by omega
  have fits : b.maxSeconds.toNat ≤ UInt64.size - 1 := by
    have := b.maxSeconds.toNat_lt
    have size : UInt64.size = 2 ^ 64 := rfl
    omega
  unfold seconds doubled
  rw [exponent]
  omega

/-- Delays that double once more than they can exceed the maximum only when the others have reached
it. -/
theorem doubled_min_eq_iff (ordered : b.IsOrdered) (failures : Nat) :
    b.doubled (min failures (maxDoublings + 1)) = b.doubled failures ↔
      failures ≤ maxDoublings + 1 ∨
        b.maxSeconds.toNat ≤ b.baseSeconds.toNat * 2 ^ maxDoublings := by
  by_cases few : failures ≤ maxDoublings + 1
  · rw [Nat.min_eq_left few]
    exact iff_of_true rfl (.inl few)
  have last : min failures (maxDoublings + 1) - 1 = maxDoublings := by omega
  have more : b.baseSeconds.toNat * 2 ^ maxDoublings < b.baseSeconds.toNat * 2 ^ (failures - 1) := by
    apply Nat.mul_lt_mul_of_pos_left _ ordered.base_pos
    apply Nat.pow_lt_pow_right (by decide)
    omega
  unfold doubled
  rw [last]
  omega

/-- The delay after so many failures in a row is the base, doubled once for each failure after the
first, up to a number of doublings and never more than the maximum. It goes on to double until it has
reached the maximum exactly when that takes no more doublings than this. -/
theorem delay_eq_doubled_iff {c : Config} (valid : c.validate = .ok ()) (failures : UInt32) :
    c.backoff.delay failures =
        .ofSeconds (c.backoff.doubled (min failures.toNat (maxDoublings + 1))) ∧
      (c.backoff.delay failures = .ofSeconds (c.backoff.doubled failures.toNat) ↔
        failures.toNat ≤ maxDoublings + 1 ∨
          c.backoff.maxSeconds.toNat ≤ c.backoff.baseSeconds.toNat * 2 ^ maxDoublings) := by
  have stands : c.backoff.delay failures =
      .ofSeconds (c.backoff.doubled (min failures.toNat (maxDoublings + 1))) := by
    rw [delay_eq_ofSeconds, seconds_eq_doubled]
  refine ⟨stands, ?_⟩
  rw [stands, Delay.ofSeconds_inj]
  exact c.backoff.doubled_min_eq_iff (isOrdered_of_validate valid) failures.toNat

/-- Delays that start at a second and may grow to more than a day. -/
def wide : Config where
  backoff := { baseSeconds := 1, maxSeconds := 100000 }

/-- After 18 failures the delay should have grown to more than a day, and has not. -/
theorem delay_of_wide :
    wide.validate = .ok () ∧ wide.backoff.delay 18 = .ofSeconds 65536 ∧
      wide.backoff.delay 18 ≠ .ofSeconds (wide.backoff.doubled 18) := by
  have valid : wide.validate = .ok () := by decide
  obtain ⟨stands, reaches_iff⟩ := delay_eq_doubled_iff valid 18
  refine ⟨valid, stands, ?_⟩
  rw [ne_eq, show (18 : Nat) = (18 : UInt32).toNat from rfl, reaches_iff]
  decide

end BackoffConfig

end MachineProvider
