import MachineProvider.Controller.Retry
import MachineProvider.Proofs.Dictionary
import Mathlib.Algebra.Order.Ring.Nat
import Mathlib.Data.List.Nodup

/-!
# Failures in a row and the delays after them

The failures of an object are counted under a key that no other object has
(`Target.eq_of_failureKey`), so that counting and forgetting them leaves all other counts as they
are. The delay grows with the count: it doubles with each failure until it has reached the longest
one (`BackoffConfig.delay_capped_eq_iff`).
-/

namespace MachineProvider

namespace FailureCount

/-- The count after so many failures in a row. -/
def capped (failures : Nat) : UInt32 :=
  UInt32.ofNat (min failures (UInt32.size - 1))

@[simp] theorem toNat_capped (failures : Nat) :
    (capped failures).toNat = min failures (UInt32.size - 1) := by
  rw [capped, UInt32.toNat_ofNat']
  exact Nat.mod_eq_of_lt (by have : UInt32.size = 2 ^ 32 := rfl; omega)

/-- One more failure counts, until the count is at its largest value. -/
theorem increment_capped (failures : Nat) :
    increment (capped failures) = capped (failures + 1) := by
  have size : UInt32.size = 4294967296 := rfl
  apply UInt32.toNat_inj.mp
  unfold increment
  split
  next small =>
    rw [toNat_capped] at small
    rw [UInt32.toNat_add, toNat_capped, toNat_capped]
    simp only [size, UInt32.toNat_one] at small ⊢
    omega
  next large =>
    simp only [toNat_capped, size] at large ⊢
    omega

section Counts

variable (counts : FailureCount) (config : BackoffConfig) {key other : String} {e : Error}

@[simp] theorem of_empty : of .empty key = 0 := rfl

@[simp] theorem of_reset : (counts.reset key).of key = 0 := by
  simp [of, reset]

theorem of_reset_of_ne (differ : other ≠ key) : (counts.reset key).of other = counts.of other := by
  rw [of, reset, Dictionary.get?_erase_of_ne _ _ differ, of]

@[simp] theorem of_next : (counts.next config key).2.of key = increment (counts.of key) := by
  simp [next, of]

theorem of_next_of_ne (differ : other ≠ key) :
    (counts.next config key).2.of other = counts.of other := by
  rw [of, next, Dictionary.get?_insert_of_ne _ _ _ differ, of]

/-- A failure without a delay of its own is counted. -/
theorem of_delayAfter (counted : e.retryAfter? = none) :
    (counts.delayAfter config key e).2.of key = increment (counts.of key) := by
  simp [delayAfter, counted]

/-- A failure is counted for no other object. -/
theorem of_delayAfter_of_ne (differ : other ≠ key) :
    (counts.delayAfter config key e).2.of other = counts.of other := by
  unfold delayAfter
  split
  · rfl
  · exact counts.of_next_of_ne config differ

end Counts

end FailureCount

namespace BackoffConfig

variable (b : BackoffConfig) {m n : Nat}

/-- The seconds to wait after so many failures in a row. -/
def seconds (failures : Nat) : Nat :=
  min (min (b.baseSeconds.toNat * 2 ^ min (failures - 1) maxDoublings) (UInt64.size - 1))
    b.maxSeconds.toNat

/-- The seconds of the longest delay. -/
def longest : Nat :=
  b.seconds (maxDoublings + 1)

theorem delay_eq_ofSeconds (failures : UInt32) :
    b.delay failures = .ofSeconds (b.seconds failures.toNat) := by
  simp only [delay, seconds, Nat.shiftLeft_eq]

theorem delay_capped (failures : Nat) :
    b.delay (FailureCount.capped failures) = .ofSeconds (b.seconds failures) := by
  have doublings : min (min failures (UInt32.size - 1) - 1) maxDoublings =
      min (failures - 1) maxDoublings := by
    have size : UInt32.size = 4294967296 := rfl
    have most : maxDoublings = 16 := rfl
    omega
  rw [delay_eq_ofSeconds, FailureCount.toNat_capped, seconds, seconds, doublings]

/-- A delay that has doubled at least as often is at least as long. -/
theorem seconds_le_seconds (doublings : min (m - 1) maxDoublings ≤ min (n - 1) maxDoublings) :
    b.seconds m ≤ b.seconds n := by
  have power : 2 ^ min (m - 1) maxDoublings ≤ 2 ^ min (n - 1) maxDoublings :=
    Nat.pow_le_pow_right (by decide) doublings
  have grown := Nat.mul_le_mul_left b.baseSeconds.toNat power
  unfold seconds
  omega

/-- The delays do not get shorter. -/
theorem seconds_mono (le : m ≤ n) : b.seconds m ≤ b.seconds n := by
  apply b.seconds_le_seconds
  omega

theorem seconds_le_longest (failures : Nat) : b.seconds failures ≤ b.longest := by
  apply b.seconds_le_seconds
  omega

/-- Twice a delay is longer, unless both are cut off or there is no delay at all. -/
theorem min_eq_of_doubled {delay limit low high : Nat} (grown : delay ≤ limit)
    (none : delay = 0 → limit = 0)
    (still : min (min (delay * 2) low) high = min (min delay low) high) :
    min (min delay low) high = min (min limit low) high := by
  omega

/-- A delay that does not grow with the next failure is the longest one. -/
theorem seconds_eq_longest (still : b.seconds (n + 2) = b.seconds (n + 1)) :
    b.seconds (n + 1) = b.longest := by
  by_cases doubled : n < maxDoublings
  · have first : min (n + 1 - 1) maxDoublings = n := by omega
    have second : min (n + 2 - 1) maxDoublings = n + 1 := by omega
    have last : 2 ^ n ≤ 2 ^ min (maxDoublings + 1 - 1) maxDoublings := by
      apply Nat.pow_le_pow_right (by decide)
      omega
    have grown := Nat.mul_le_mul_left b.baseSeconds.toNat last
    have zero (doublings : Nat) (none : b.baseSeconds.toNat * 2 ^ n = 0) :
        b.baseSeconds.toNat * 2 ^ doublings = 0 := by
      rw [(Nat.mul_eq_zero.mp none).resolve_right (Nat.two_pow_pos n).ne', Nat.zero_mul]
    unfold longest
    unfold seconds at still ⊢
    rw [first, second, Nat.pow_succ, ← Nat.mul_assoc] at still
    rw [first]
    exact min_eq_of_doubled grown (zero _) still
  · have same : min (n + 1 - 1) maxDoublings = min (maxDoublings + 1 - 1) maxDoublings := by omega
    unfold longest seconds
    rw [same]

/-- More failures lead to as many seconds exactly when the delay is the longest one. -/
theorem seconds_eq_iff (le : m ≤ n) :
    b.seconds (n + 1) = b.seconds (m + 1) ↔ n = m ∨ b.seconds (m + 1) = b.longest := by
  constructor
  · intro same
    by_cases more : m < n
    · right
      apply seconds_eq_longest
      apply le_antisymm
      · calc b.seconds (m + 2) ≤ b.seconds (n + 1) := b.seconds_mono (by omega)
          _ = b.seconds (m + 1) := same
      · exact b.seconds_mono (by omega)
    · left
      omega
  · rintro (rfl | longest)
    · rfl
    · apply le_antisymm
      · rw [longest]
        exact b.seconds_le_longest _
      · exact b.seconds_mono (by omega)

/-- More failures lead to the same delay exactly when it is the longest one. -/
theorem delay_capped_eq_iff (le : m ≤ n) :
    b.delay (FailureCount.capped (n + 1)) = b.delay (FailureCount.capped (m + 1)) ↔
      n = m ∨ b.seconds (m + 1) = b.longest := by
  rw [delay_capped, delay_capped, Delay.ofSeconds_inj, b.seconds_eq_iff le]

end BackoffConfig

section Keys

/-- Whether a target is named as the API server names objects: a namespace is not empty and has no
slash. -/
def Target.IsAddressable (t : Target) : Prop :=
  ∀ here ∈ t.namespace, here ≠ "" ∧ '/' ∉ here.toList

/-- A part of a key ends at the first slash. -/
theorem eq_of_append_slash {a b x y : List Char} (ha : '/' ∉ a) (hb : '/' ∉ b)
    (same : a ++ '/' :: x = b ++ '/' :: y) : a = b ∧ x = y := by
  induction a generalizing b with
  | nil =>
      cases b with
      | nil => exact ⟨rfl, (List.cons.inj same).2⟩
      | cons c rest => exact absurd ((List.cons.inj same).1 ▸ List.mem_cons_self) hb
  | cons c rest ih =>
      cases b with
      | nil => exact absurd ((List.cons.inj same).1 ▸ List.mem_cons_self) ha
      | cons d rest' =>
          obtain ⟨rfl, tails⟩ := List.cons.inj same
          obtain ⟨rfl, ends⟩ := ih (List.not_mem_of_not_mem_cons ha)
            (List.not_mem_of_not_mem_cons hb) tails
          exact ⟨rfl, ends⟩

/-- The parts of a key can be told apart, as only the last one may have slashes. -/
theorem objectKey_inj {kind kind' place place' name name' : String} (hk : '/' ∉ kind.toList)
    (hk' : '/' ∉ kind'.toList) (hp : '/' ∉ place.toList) (hp' : '/' ∉ place'.toList) :
    objectKey kind place name = objectKey kind' place' name' ↔
      kind = kind' ∧ place = place' ∧ name = name' := by
  constructor
  · intro same
    have unfolded (kind place name : String) : (objectKey kind place name).toList =
        kind.toList ++ '/' :: (place.toList ++ '/' :: name.toList) := by
      simp [objectKey]
    have chars := congrArg String.toList same
    rw [unfolded, unfolded] at chars
    obtain ⟨kinds, rest⟩ := eq_of_append_slash hk hk' chars
    obtain ⟨places, names⟩ := eq_of_append_slash hp hp' rest
    exact ⟨String.toList_inj.mp kinds, String.toList_inj.mp places, String.toList_inj.mp names⟩
  · rintro ⟨rfl, rfl, rfl⟩
    rfl

theorem Kind.slash_not_mem (kind : Kind) : '/' ∉ kind.type.kind.toList := by
  cases kind <;> decide

theorem Kind.eq_of_type {a b : Kind} (same : a.type.kind = b.type.kind) : a = b := by
  cases a <;> cases b <;> first | rfl | exact absurd same (by decide)

/-- The failures of two targets are not counted under one key. -/
theorem Target.eq_of_failureKey {a b : Target} (addressable : a.IsAddressable)
    (addressable' : b.IsAddressable) (same : a.failureKey = b.failureKey) : a = b := by
  have free {t : Target} (h : t.IsAddressable) : '/' ∉ (t.namespace.getD "").toList := by
    cases eq : t.namespace with
    | none => decide
    | some here => exact (h here eq).2
  obtain ⟨kinds, texts, name⟩ := (objectKey_inj a.kind.slash_not_mem b.kind.slash_not_mem
    (free addressable) (free addressable')).mp same
  have kind : a.kind = b.kind := Kind.eq_of_type kinds
  have place : a.namespace = b.namespace := by
    cases ha : a.namespace with
    | none =>
        cases hb : b.namespace with
        | none => rfl
        | some there =>
            rw [ha, hb] at texts
            exact absurd texts.symm (addressable' there hb).1
    | some here =>
        cases hb : b.namespace with
        | none =>
            rw [ha, hb] at texts
            exact absurd texts (addressable here ha).1
        | some there =>
            rw [ha, hb] at texts
            exact congrArg some texts
  cases a
  cases b
  simp only [Target.mk.injEq]
  exact ⟨kind, place, name⟩

end Keys

end MachineProvider
