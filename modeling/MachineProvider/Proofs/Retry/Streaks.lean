import MachineProvider.Proofs.Retry.Backoff

/-!
# Failures in a row, object by object

The failures of all objects are counted in one table. Whatever calls were made on it before, the next
delay for an object goes by the calls for this object alone: it is the delay after the failures that
were counted for it since they were last forgotten, and the one that is counted now
(`FailureCount.delay_of_streak`). These delays never get shorter, and they lie between the base and the
maximum.
-/

namespace MachineProvider

namespace BackoffConfig

variable {b : BackoffConfig}

theorem IsOrdered.base_le_seconds (ordered : b.IsOrdered) (failures : Nat) :
    b.baseSeconds.toNat ≤ b.seconds failures := by
  have grown : b.baseSeconds.toNat * 1 ≤
      b.baseSeconds.toNat * 2 ^ (min failures (maxDoublings + 1) - 1) :=
    Nat.mul_le_mul_left _ Nat.one_le_two_pow
  have below := ordered.base_le
  rw [seconds_eq_doubled, doubled]
  omega

theorem seconds_le (b : BackoffConfig) (failures : Nat) :
    b.seconds failures ≤ b.maxSeconds.toNat := by
  unfold seconds
  omega

end BackoffConfig

namespace FailureCount

/-- An object that failures are counted for. -/
structure Subject where
  kind : String
  «namespace» : String
  name : String
  deriving DecidableEq

namespace Subject

/-- The key under which the failures of the object are counted. -/
def key (s : Subject) : String :=
  objectKey s.kind s.namespace s.name

/-- Whether there is no slash in front of the name. -/
structure IsPlain (s : Subject) : Prop where
  kind : '/' ∉ s.kind.toList
  «namespace» : '/' ∉ s.namespace.toList

theorem key_inj {s t : Subject} (hs : s.IsPlain) (ht : t.IsPlain) : s.key = t.key ↔ s = t := by
  rw [key, key, objectKey_inj hs.kind ht.kind hs.namespace ht.namespace]
  cases s
  cases t
  simp

end Subject

/-- A call on the table of counts. -/
inductive Call where
  /-- Counts a failure of an object, and asks how long to wait after it. -/
  | next (subject : Subject)
  /-- Forgets the failures of an object. -/
  | reset (subject : Subject)

namespace Call

/-- The object that a call is made for. -/
def subject : Call → Subject
  | next s => s
  | reset s => s

/-- Whether a call counts a failure. -/
def isNext : Call → Bool
  | next _ => true
  | reset _ => false

end Call

/-- The table after a call. -/
def perform (counts : FailureCount) (config : BackoffConfig) : Call → FailureCount
  | .next s => (counts.next config s.key).2
  | .reset s => counts.reset s.key

/-- A call changes no other count than that of its object. -/
theorem of_perform_of_ne (counts : FailureCount) (config : BackoffConfig) {call : Call}
    {key : String} (differ : key ≠ call.subject.key) :
    (counts.perform config call).of key = counts.of key := by
  cases call with
  | next s => exact counts.of_next_of_ne config differ
  | reset s => exact counts.of_reset_of_ne differ

/-- The table after calls, the last of which comes first. There is nothing in it at the beginning. -/
def afterCalls (config : BackoffConfig) : List Call → FailureCount
  | [] => .empty
  | call :: earlier => (afterCalls config earlier).perform config call

/-- How many failures calls for one object have counted since they last forgot them. The last call
comes first. -/
def streak (own : List Call) : Nat :=
  (own.takeWhile Call.isNext).length

variable {config : BackoffConfig} {s : Subject} {calls : List Call}

/-- The table counts for an object what the calls for this object say. -/
theorem of_afterCalls (plain : ∀ call ∈ calls, call.subject.IsPlain) (hs : s.IsPlain) :
    (afterCalls config calls).of s.key = capped (streak (calls.filter (·.subject = s))) := by
  induction calls with
  | nil => rfl
  | cons call earlier ih =>
      have before := ih fun other member => plain other (List.mem_cons_of_mem _ member)
      have hcall := plain call List.mem_cons_self
      by_cases own : call.subject = s
      · rw [List.filter_cons_of_pos (by simpa using own)]
        subst own
        cases call with
        | next s =>
            calc ((afterCalls config earlier).perform config (.next s)).of s.key
                = increment ((afterCalls config earlier).of s.key) := of_next _ _
              _ = increment (capped (streak (earlier.filter (·.subject = s)))) :=
                congrArg increment before
              _ = capped (streak (.next s :: earlier.filter (·.subject = s))) := increment_capped _
        | reset s => exact of_reset _
      · rw [List.filter_cons_of_neg (by simpa using own), ← before]
        -- Another object has another key, as neither has a slash in front of its name.
        apply of_perform_of_ne
        rw [ne_eq, Subject.key_inj hs hcall]
        exact Ne.symm own

/-- The next delay for an object goes by the failures that the calls for this object have counted since
they last forgot them, whatever calls were made for others. Such delays never get shorter with more
failures, and lie between the base and the maximum. -/
theorem delay_of_streak {c : Config} (valid : c.validate = .ok ())
    (plain : ∀ call ∈ calls, call.subject.IsPlain) (hs : s.IsPlain) :
    ((afterCalls c.backoff calls).next c.backoff s.key).1 =
        c.backoff.delay (capped (streak (calls.filter (·.subject = s)) + 1)) ∧
      (∀ m n, m ≤ n →
        (c.backoff.delay (capped m)).millis ≤ (c.backoff.delay (capped n)).millis) ∧
      ∀ n, (Delay.ofSeconds c.backoff.baseSeconds.toNat).millis ≤
          (c.backoff.delay (capped n)).millis ∧
        (c.backoff.delay (capped n)).millis ≤
          (Delay.ofSeconds c.backoff.maxSeconds.toNat).millis := by
  refine ⟨?_, ?_, ?_⟩
  · rw [← increment_capped, ← of_afterCalls plain hs]
    rfl
  · intro m n le
    rw [BackoffConfig.delay_capped, BackoffConfig.delay_capped]
    exact Nat.mul_le_mul_right _ (c.backoff.seconds_mono le)
  · intro n
    have ordered := BackoffConfig.isOrdered_of_validate valid
    rw [BackoffConfig.delay_capped]
    constructor
    · exact Nat.mul_le_mul_right _ (ordered.base_le_seconds n)
    · exact Nat.mul_le_mul_right _ (c.backoff.seconds_le n)

/-- A machine and a cluster of one name. -/
def worker (kind : String) : Subject where
  kind
  «namespace» := "default"
  name := "demo/worker"

/-- The failures of a machine before they were forgotten do not count, nor do those of a cluster. -/
theorem delay_of_streak_of_worker :
    let calls : List Call := [.next (worker "Cluster"), .next (worker "Machine"),
      .next (worker "Machine"), .reset (worker "Machine"), .next (worker "Machine")]
    ({} : Config).validate = .ok () ∧ (∀ call ∈ calls, call.subject.IsPlain) ∧
      (worker "Machine").IsPlain ∧
      ((afterCalls {} calls).next {} (worker "Machine").key).1 = .ofSeconds 20 := by
  intro calls
  have machine : (worker "Machine").IsPlain := ⟨by decide, by decide⟩
  have cluster : (worker "Cluster").IsPlain := ⟨by decide, by decide⟩
  have all : ∀ call ∈ calls, call.subject.IsPlain := by
    simp [calls, Call.subject, machine, cluster]
  have valid : ({} : Config).validate = .ok () := by decide
  refine ⟨valid, all, machine, ?_⟩
  calc ((afterCalls {} calls).next {} (worker "Machine").key).1
      = BackoffConfig.delay {} (capped (streak (calls.filter (·.subject = worker "Machine")) + 1)) :=
        (delay_of_streak valid all machine).1
    _ = .ofSeconds 20 := by decide

end FailureCount

end MachineProvider
