import MachineProvider.Proofs.Retry.Backoff
import MachineProvider.Proofs.Retry.Forgetting

/-!
# Runs that cannot start their guard

A run starts a guard before it uses the services, with a deadline that is the time of the monotonic
clock plus the bound of the configuration. When that sum cannot be represented the run crashes, and
this is the only way in which a run can crash (`Routine.follows_run_guarding`). The check of a
configuration asks of the bound only that it is not zero, so that it accepts bounds with which every
run crashes that gets as far as its guard (`Config.crashes_iff`).
-/

namespace MachineProvider

open Controller Procedure

/-- The discipline of a run at an instant. Its record says whether a guard was to be started, and
without a guard no service is used. -/
def guarding (now : Nat) : Discipline Question Answer Bool where
  next asked q _ :=
    match q with
    | .startGuard _ => true
    | _ => asked
  may asked q :=
    match q with
    | .service _ => asked = true
    | _ => True
  expects _ q a :=
    match q, a with
    | .startGuard timeout, started => started = (Guard.start? now timeout).isSome
    | _, _ => True

/-- Whether a run crashes exactly when it was to start a guard with a deadline that cannot be
represented. -/
def CrashesByDeadline (deadline : Nat) (result : Run) (asked : Bool) : Prop :=
  result = .crashed ↔ asked = true ∧ Guard.lastInstant < deadline

theorem Guard.isSome_start?_iff (now : Nat) (timeout : Delay) :
    (start? now timeout).isSome = true ↔ now + timeout.millis ≤ lastInstant := by
  unfold start?
  dsimp only
  split
  next fits => exact iff_of_true rfl fits
  next late => exact iff_of_false Bool.false_ne_true late

section Parts

variable {now deadline : Nat} {asked : Bool}

theorem ignoresWrites_guarding (kind : Kind) : IgnoresWrites (guarding now) asked kind where
  mayReplace _ _ _ := trivial
  sameReplace _ _ _ _ := rfl
  mayReplaceStatus _ _ _ := trivial
  sameReplaceStatus _ _ _ _ := rfl

theorem keeps_fetchOptional_guarding (kind : Kind) (here name : String) :
    (fetchOptional kind here name).Keeps (guarding now) asked :=
  keeps_fetchOptional trivial fun _ => rfl

/-- The services start no guard. -/
theorem keeps_ofService_guarding {α : Type} (service : Service α) :
    (ofService service).Keeps (guarding now) true :=
  keeps_ofService_of_forall (fun _ => rfl) (fun _ _ => rfl) service

/-- A run does not crash at its end. -/
theorem follows_conclude_guarding (kind : Kind) (here name : String)
    (outcome : Except Error Action) (written : Except Error Unit)
    (fits : deadline ≤ Guard.lastInstant) :
    (conclude kind here name outcome written).Follows (guarding now)
      (CrashesByDeadline deadline) asked := by
  have late : ¬ Guard.lastInstant < deadline := Nat.not_lt.mpr fits
  unfold conclude
  cases combine outcome written with
  | error e => exact iff_of_false nofun fun crashes => late crashes.2
  | ok action => exact ⟨trivial, fun _ _ => iff_of_false nofun fun crashes => late crashes.2⟩

end Parts

namespace Routine

variable {kind : Kind} {c : Routine kind} {now : Nat}

/-- Whether reading the owners and writing back start no guard. -/
structure IsUnguarded (c : Routine kind) : Prop where
  owners : ∀ now before here, (c.owners before here).Keeps (guarding now) false
  writeBack : ∀ now here name before after,
    (c.writeBack here name before after).Keeps (guarding now) true

theorem follows_finish_guarding (h : c.IsUnguarded) (here name : String) (before : kind.Object)
    (reconciled : kind.Object × Except Error Action)
    (fits : now + c.timeout.millis ≤ Guard.lastInstant) :
    (c.finish here name before reconciled).Follows (guarding now)
      (CrashesByDeadline (now + c.timeout.millis)) true := by
  unfold finish
  apply Follows.bind (h.writeBack now here name before reconciled.1)
  rintro written _ rfl
  exact follows_conclude_guarding kind here name _ _ fits

theorem follows_work_guarding (h : c.IsUnguarded) (here name : String) (before : kind.Object)
    (known : Option c.Owners) :
    (c.work here name before known).Follows (guarding now)
      (CrashesByDeadline (now + c.timeout.millis)) false := by
  unfold work
  refine ⟨trivial, fun started startedIs => ?_⟩
  have fits_iff : started = true ↔ now + c.timeout.millis ≤ Guard.lastInstant := by
    rw [show started = (Guard.start? now c.timeout).isSome from startedIs,
      Guard.isSome_start?_iff]
  change Follows _ _ (if _ then _ else _) true
  cases started with
  | false => exact iff_of_true rfl ⟨rfl, Nat.not_le.mp (mt fits_iff.mpr Bool.false_ne_true)⟩
  | true =>
      have fits := fits_iff.mp rfl
      cases before.metadata.isDeleted with
      | true =>
          apply Follows.bind (keeps_ofService_guarding _)
          rintro reconciled _ rfl
          exact follows_finish_guarding h here name before reconciled fits
      | false =>
          cases known with
          | none => exact iff_of_false nofun fun crashes => Nat.not_lt.mpr fits crashes.2
          | some o =>
              apply Follows.bind (keeps_ofService_guarding _)
              rintro reconciled _ rfl
              exact follows_finish_guarding h here name before reconciled fits

/-- A run crashes exactly when it comes to start its guard and the deadline cannot be represented. -/
theorem follows_run_guarding (h : c.IsUnguarded) («namespace» : Option String) (name : String) :
    (c.run «namespace» name).Follows (guarding now)
      (CrashesByDeadline (now + c.timeout.millis)) false := by
  have ends (result : Except Error Action) :
      CrashesByDeadline (now + c.timeout.millis) (.finished result) false :=
    iff_of_false nofun fun crashes => Bool.false_ne_true crashes.1
  unfold run
  cases «namespace» with
  | none => exact ends _
  | some here =>
      apply Follows.bind (keeps_fetchOptional_guarding kind here name)
      rintro (e | before | before) _ rfl
      · exact ends _
      · exact ends _
      apply Follows.bind (h.owners now before here)
      rintro (e | known) _ rfl
      · exact ends _
      dsimp only
      split
      · exact ends _
      · exact follows_work_guarding h here name before known

end Routine

theorem InfraMachine.isUnguarded_routine (config : Config) (gzip : Gzip.Compressor) :
    (routine config gzip).IsUnguarded where
  owners _ _ _ := keeps_owners (fun _ _ _ => trivial) fun _ _ _ _ => rfl
  writeBack _ _ _ _ _ :=
    keeps_writeBack (ignoresWrites_guarding .infraMachine) (fun _ _ => trivial) fun _ _ _ => rfl

theorem InfraCluster.isUnguarded_routine (config : Config) : (routine config).IsUnguarded where
  owners now before here := by
    change (owner before here).Keeps _ _
    unfold owner
    split
    · exact keeps_done _ _
    · exact keeps_fetchOptional_guarding .cluster here _
  writeBack _ _ _ _ _ := keeps_write (ignoresWrites_guarding .infraCluster) _ _

namespace Config

/-- A configuration is accepted with any bound but zero. -/
theorem validate_with_timeout {c : Config} (valid : c.validate = .ok ()) {seconds : UInt64}
    (there : seconds ≠ 0) : { c with reconcileTimeoutSeconds := seconds }.validate = .ok () := by
  have faultless := fault?_of_validate valid
  have still : { c with reconcileTimeoutSeconds := seconds }.fault? = none := by
    simp only [fault?] at faultless ⊢
    split_ifs at faultless with requeue sync timeout concurrency image secret backoff
    simp only [requeue, sync, there, concurrency, image, secret, backoff, if_false]
    exact faultless
  unfold validate
  rw [still]

/-- With a configuration that is accepted the runs for machines and for clusters start a guard before
they use a service. They crash exactly when they come to that and the clock shows a time from which on
the bound ends later than can be represented. And a configuration is accepted with every bound but
zero. -/
theorem crashes_iff {c : Config} (valid : c.validate = .ok ()) (now : Nat) :
    (∀ «namespace» name,
      (∀ gzip, (InfraMachine.run «namespace» name c gzip).Follows (guarding now)
          (CrashesByDeadline (now + c.reconcileTimeoutSeconds.toNat * 1000)) false) ∧
        (InfraCluster.run «namespace» name c).Follows (guarding now)
          (CrashesByDeadline (now + c.reconcileTimeoutSeconds.toNat * 1000)) false) ∧
      ∀ seconds : UInt64, seconds ≠ 0 →
        { c with reconcileTimeoutSeconds := seconds }.validate = .ok () := by
  refine ⟨?_, fun seconds there => validate_with_timeout valid there⟩
  intro «namespace» name
  constructor
  · intro gzip
    rw [InfraMachine.run_eq_routine]
    exact Routine.follows_run_guarding (InfraMachine.isUnguarded_routine c gzip) «namespace» name
  · rw [InfraCluster.run_eq_routine]
    exact Routine.follows_run_guarding (InfraCluster.isUnguarded_routine c) «namespace» name

/-- How a cluster is answered for that nobody owns, at an instant. -/
def answerAt (now : Nat) : (q : Question) → Answer q
  | .service (.call _) => .refused .cancelled
  | .service (.connect _) => .ok ()
  | .service (.publish _) => ()
  | .service .now => ⟨0, 0⟩
  | .startGuard timeout => (Guard.start? now timeout).isSome
  | .fetch .infraCluster .. => .ok { spec := default }
  | .fetch .. => .error (.unusable "")
  | .replace .. => .error (.unusable "")
  | .replaceStatus .. => .error (.unusable "")
  | .forgetFailures _ => ()

/-- What a run for that cluster comes to, and whether a guard was to be started. -/
def ranAt (now : Nat) (config : Config) : Run × Bool :=
  (InfraCluster.run (some "default") "demo" config).run
    (fun q asked => (answerAt now q, (guarding now).next asked q (answerAt now q))) false

/-- What holds of every run holds of that one. -/
theorem follows_ranAt {now : Nat} {config : Config} {post : Run → Bool → Prop}
    (follows : (InfraCluster.run (some "default") "demo" config).Follows (guarding now) post false) :
    post (ranAt now config).1 (ranAt now config).2 := by
  change post _ (id (ranAt now config).2)
  apply Follows.run (d := guarding now)
  · exact follows
  · intro q asked
    cases q with
    | startGuard timeout => rfl
    | _ => trivial
  · exact fun _ _ => rfl

/-- A run for that cluster comes to start its guard. -/
theorem asked_ranAt (now : Nat) (config : Config) : (ranAt now config).2 = true := by
  change (Procedure.run _ (if !(Guard.start? now config.reconcileTimeout).isSome then _ else _)
    true).2 = true
  cases (Guard.start? now config.reconcileTimeout).isSome <;> rfl

/-- The configuration with the longest bound. -/
def longest : Config where
  reconcileTimeoutSeconds := 18446744073709551615

/-- The longest bound is accepted, and with it a run crashes at any time. -/
theorem crashes_of_longest :
    longest.validate = .ok () ∧ ∀ now, (ranAt now longest).1 = .crashed := by
  have valid : longest.validate = .ok () := by decide
  refine ⟨valid, ?_⟩
  intro now
  have crashes := follows_ranAt ((crashes_iff valid now).1 (some "default") "demo").2
  have seconds : longest.reconcileTimeoutSeconds.toNat = 18446744073709551615 := by decide
  refine crashes.mpr ⟨asked_ranAt now longest, ?_⟩
  rw [seconds, Guard.lastInstant]
  omega

end Config

end MachineProvider
