import Mathlib.Logic.Relation
import MachineProvider.Controller.Retry
import MachineProvider.Proofs.FailureCount
import MachineProvider.Proofs.Retry.Forgetting

/-!
# Delays after failures

Runs for different objects go on side by side and share one count of failures; there is never more
than one run for an object. What came of the runs is logged. The delay after a failure goes by the
failures of the object since its last run that succeeded and did not pass it over
(`Retry.IsSound`). A run that passes its object over succeeds too, and the failures before it still
count; so the delay is too long after it, unless it is the longest one already
(`Retry.delay_after_failure`).
-/

namespace MachineProvider

open Controller Procedure Relation
open FailureCount (capped)

/-- What came of a run, and what was made of it. -/
inductive Ending where
  | returned (passedOver : Bool)
  | failed (e : Error) (delay : Delay)

namespace Ending

/-- Whether a run succeeded. -/
def isReturn : Ending → Bool
  | returned _ => true
  | failed .. => false

/-- Whether a run succeeded and did not pass its object over. -/
def isSettling : Ending → Bool
  | returned passedOver => !passedOver
  | failed .. => false

/-- Whether a run failed and did not ask for a delay of its own. -/
def isCounted : Ending → Bool
  | returned _ => false
  | failed e _ => e.retryAfter?.isNone

theorem isReturn_of_isSettling {ending : Ending} (h : ending.isSettling = true) :
    ending.isReturn = true := by
  cases ending with
  | returned passedOver => rfl
  | failed e delay => exact h

end Ending

namespace Target

variable (config : Config) (gzip : Gzip.Compressor) (t : Target)

/-- The run of the controller for a target, if there is a controller for it. -/
def run? : Option (Controller Run) :=
  match t.kind with
  | .infraCluster => some (InfraCluster.run t.namespace t.name config)
  | .infraMachine => some (InfraMachine.run t.namespace t.name config gzip)
  | _ => none

/-- The same run with whether it passes its object over. -/
def judgedRun? : Option (Controller (Bool × Run)) :=
  match t.kind with
  | .infraCluster => some ((InfraCluster.routine config).judgedRun t.namespace t.name)
  | .infraMachine => some ((InfraMachine.routine config gzip).judgedRun t.namespace t.name)
  | _ => none

theorem run?_eq_judgedRun? :
    t.run? config gzip =
      (t.judgedRun? config gzip).map fun p => p.bind fun judged => .done judged.2 := by
  unfold run? judgedRun?
  cases t.kind with
  | infraCluster =>
      rw [InfraCluster.run_eq_routine, Routine.run_eq_judgedRun]
      rfl
  | infraMachine =>
      rw [InfraMachine.run_eq_routine, Routine.run_eq_judgedRun]
      rfl
  | _ => rfl

variable {config gzip t}

theorem follows_judgedRun? {rest : Controller (Bool × Run)}
    (known : t.judgedRun? config gzip = some rest) :
    rest.Follows (forgetting t.failureKey) Suits false := by
  obtain ⟨kind, «namespace», name⟩ := t
  cases kind with
  | infraCluster =>
      cases known
      exact Routine.follows_judgedRun (InfraCluster.isMindful_routine config) «namespace» name
  | infraMachine =>
      cases known
      exact Routine.follows_judgedRun (InfraMachine.isMindful_routine config gzip) «namespace» name
  | _ => cases known

end Target

namespace Retry

/-- The failures that are counted, the runs that go on, and what came of the runs before them. -/
structure State where
  counts : FailureCount := .empty
  /-- What is left of the run for a target. -/
  flight : Target → Option (Controller (Bool × Run)) := fun _ => none
  /-- What came of the runs, the last one first. -/
  log : List (Target × Ending) := []

/-- Nothing has happened yet. -/
def State.start : State where

/-- The counted failures among the runs for a target, since the last one that stops the counting. -/
def State.failuresSince (s : State) (stops : Ending → Bool) (t : Target) : Nat :=
  (((s.log.filter (·.1 = t)).map (·.2)).takeWhile (!stops ·)).countP (·.isCounted)

/-- The counts after a question of a run. -/
def asked (counts : FailureCount) : Question → FailureCount
  | .forgetFailures key => counts.reset key
  | _ => counts

/-- What happens next. A run that crashes takes everything with it, so that nothing happens after
it. -/
inductive Step (config : Config) : State → State → Prop
  /-- A run begins for a target that has none. -/
  | begins {s : State} {t : Target} {rest : Controller (Bool × Run)} {gzip : Gzip.Compressor}
    (addressable : t.IsAddressable) (free : s.flight t = none)
    (known : t.judgedRun? config gzip = some rest) :
    Step config s { s with flight := Function.update s.flight t (some rest) }
  /-- A run goes on with any answer to its question. -/
  | asks {s : State} {t : Target} {q : Question} {next : Answer q → Controller (Bool × Run)}
    (asking : s.flight t = some (.ask q next)) (a : Answer q) :
    Step config s { s with counts := asked s.counts q
                           flight := Function.update s.flight t (some (next a)) }
  /-- A run succeeds. -/
  | returns {s : State} {t : Target} {passedOver : Bool} {action : Action}
    (finished : s.flight t = some (.done (passedOver, .finished (.ok action)))) :
    Step config s { s with flight := Function.update s.flight t none
                           log := (t, .returned passedOver) :: s.log }
  /-- A run fails, and the delay after it is chosen. -/
  | fails {s : State} {t : Target} {passedOver : Bool} {e : Error} {delay : Delay}
    {counts : FailureCount}
    (finished : s.flight t = some (.done (passedOver, .finished (.error e))))
    (chosen : s.counts.delayAfter config.backoff t.failureKey e = (delay, counts)) :
    Step config s { counts
                    flight := Function.update s.flight t none
                    log := (t, .failed e delay) :: s.log }

/-- What may happen after a start without runs and failures. -/
def Reachable (config : Config) (s : State) : Prop :=
  ReflTransGen (Step config) State.start s

section Failures

variable {s s' : State} {t other : Target} {stops : Ending → Bool} {ending : Ending}

theorem failuresSince_of_ne (logged : s'.log = (t, ending) :: s.log) (differ : other ≠ t) :
    s'.failuresSince stops other = s.failuresSince stops other := by
  unfold State.failuresSince
  rw [logged, List.filter_cons_of_neg]
  simpa using differ.symm

theorem failuresSince_of_stops (logged : s'.log = (t, ending) :: s.log)
    (h : stops ending = true) : s'.failuresSince stops t = 0 := by
  simp [State.failuresSince, logged, h]

theorem failuresSince_of_goesOn (logged : s'.log = (t, ending) :: s.log)
    (h : stops ending = false) :
    s'.failuresSince stops t = s.failuresSince stops t + if ending.isCounted then 1 else 0 := by
  simp [State.failuresSince, logged, h, List.countP_cons]

/-- There are no fewer failures since an earlier run. -/
theorem failuresSince_le {earlier : Ending → Bool}
    (weaker : ∀ ending, earlier ending = true → stops ending = true) :
    s.failuresSince stops t ≤ s.failuresSince earlier t := by
  unfold State.failuresSince
  generalize (s.log.filter (·.1 = t)).map (·.2) = endings
  induction endings with
  | nil => exact le_rfl
  | cons ending endings ih =>
      cases h : stops ending with
      | true => simp [h]
      | false =>
          have goesOn : earlier ending = false := by
            apply Bool.eq_false_of_not_eq_true
            intro stop
            rw [weaker _ stop] at h
            cases h
          simp only [List.takeWhile_cons, h, goesOn, Bool.not_false, if_true, List.countP_cons]
          omega

end Failures

/-- Whether the count of a target goes by its failures since its last run that settled it. A run
that has forgotten them and is not over yet has made the count zero. -/
def State.Accounts (s : State) (t : Target) : Prop :=
  match s.flight t with
  | none => s.counts.of t.failureKey = capped (s.failuresSince Ending.isSettling t)
  | some rest => ∃ forgotten, rest.Follows (forgetting t.failureKey) Suits forgotten ∧
      s.counts.of t.failureKey =
        capped (if forgotten then 0 else s.failuresSince Ending.isSettling t)

/-- Whether all counts go by the failures. -/
structure IsSound (s : State) : Prop where
  addressable : ∀ t, s.flight t ≠ none → t.IsAddressable
  accounts : ∀ t, t.IsAddressable → s.Accounts t

section Soundness

variable {config : Config} {s s' : State} {t : Target}

theorem State.accounts_of_none (free : s.flight t = none) : s.Accounts t ↔
    s.counts.of t.failureKey = capped (s.failuresSince Ending.isSettling t) := by
  simp only [Accounts, free]

theorem State.accounts_of_some {rest : Controller (Bool × Run)} (busy : s.flight t = some rest) :
    s.Accounts t ↔ ∃ forgotten, rest.Follows (forgetting t.failureKey) Suits forgotten ∧
      s.counts.of t.failureKey =
        capped (if forgotten then 0 else s.failuresSince Ending.isSettling t) := by
  simp only [Accounts, busy]

/-- What a step changes for one target leaves the others as they are. -/
theorem IsSound.step (h : IsSound s) (reached : t.IsAddressable) (accounts : s'.Accounts t)
    {rest : Option (Controller (Bool × Run))} (flight : s'.flight = Function.update s.flight t rest)
    (counts : ∀ other : Target, other.failureKey ≠ t.failureKey →
      s'.counts.of other.failureKey = s.counts.of other.failureKey)
    (failures : ∀ other, other ≠ t →
      s'.failuresSince Ending.isSettling other = s.failuresSince Ending.isSettling other) :
    IsSound s' where
  addressable other busy := by
    by_cases same : other = t
    · exact same ▸ reached
    · apply h.addressable
      rwa [flight, Function.update_of_ne same] at busy
  accounts other addressable := by
    by_cases same : other = t
    · exact same ▸ accounts
    · have keys : other.failureKey ≠ t.failureKey :=
        fun eq => same (Target.eq_of_failureKey addressable reached eq)
      unfold State.Accounts
      rw [flight, Function.update_of_ne same, counts other keys, failures other same]
      exact h.accounts other addressable

theorem isSound_start : IsSound State.start where
  addressable _ busy := absurd rfl busy
  accounts _ _ := rfl

/-- A run that fails has forgotten nothing. -/
theorem IsSound.of_failed (h : IsSound s) {passedOver : Bool} {e : Error}
    (finished : s.flight t = some (.done (passedOver, .finished (.error e)))) :
    t.IsAddressable ∧
      s.counts.of t.failureKey = capped (s.failuresSince Ending.isSettling t) := by
  have addressable := h.addressable t (finished ▸ Option.some_ne_none _)
  obtain ⟨forgotten, suits, count⟩ :=
    (State.accounts_of_some finished).mp (h.accounts t addressable)
  have kept : forgotten = false := by
    apply Bool.eq_false_of_not_eq_true
    intro forgot
    obtain ⟨_, action, ended⟩ := suits.mp forgot
    cases ended
  rw [kept] at count
  exact ⟨addressable, count⟩

/-- Every step keeps the counts in line with the failures. -/
theorem IsSound.next (h : IsSound s) (step : Step config s s') : IsSound s' := by
  cases step with
  | @begins t rest gzip addressable free known =>
      apply h.step addressable
      · apply (State.accounts_of_some (Function.update_self ..)).mpr
        refine ⟨false, Target.follows_judgedRun? known, ?_⟩
        exact (State.accounts_of_none free).mp (h.accounts t addressable)
      · rfl
      · exact fun _ _ => rfl
      · exact fun _ _ => rfl
  | @asks t q next asking a =>
      have addressable := h.addressable t (asking ▸ Option.some_ne_none _)
      obtain ⟨forgotten, follows, count⟩ :=
        (State.accounts_of_some asking).mp (h.accounts t addressable)
      have rest := follows.2 a trivial
      apply h.step addressable
      · apply (State.accounts_of_some (Function.update_self ..)).mpr
        refine ⟨_, rest, ?_⟩
        cases q with
        | forgetFailures key =>
            obtain ⟨rfl, -⟩ := follows.1
            exact FailureCount.of_reset s.counts
        | _ => exact count
      · rfl
      · intro other differ
        cases q with
        | forgetFailures key =>
            obtain ⟨rfl, -⟩ := follows.1
            exact FailureCount.of_reset_of_ne s.counts differ
        | _ => rfl
      · exact fun _ _ => rfl
  | @returns t passedOver action finished =>
      have addressable := h.addressable t (finished ▸ Option.some_ne_none _)
      obtain ⟨forgotten, suits, count⟩ :=
        (State.accounts_of_some finished).mp (h.accounts t addressable)
      apply h.step addressable
      · apply (State.accounts_of_none (Function.update_self ..)).mpr
        cases passedOver with
        | true =>
            have kept : forgotten = false := by
              apply Bool.eq_false_of_not_eq_true
              intro forgot
              cases (suits.mp forgot).1
            rw [failuresSince_of_goesOn rfl (by rfl)]
            simpa [kept, Ending.isCounted] using count
        | false =>
            have forgot : forgotten = true := suits.mpr ⟨rfl, action, rfl⟩
            rw [failuresSince_of_stops rfl (by rfl)]
            simpa [forgot] using count
      · rfl
      · exact fun _ _ => rfl
      · exact fun other differ => failuresSince_of_ne rfl differ
  | @fails t passedOver e delay counts finished chosen =>
      obtain ⟨addressable, count⟩ := h.of_failed finished
      obtain ⟨rfl, rfl⟩ : (s.counts.delayAfter config.backoff t.failureKey e).1 = delay ∧
          (s.counts.delayAfter config.backoff t.failureKey e).2 = counts := by
        rw [chosen]
        exact ⟨rfl, rfl⟩
      apply h.step addressable
      · apply (State.accounts_of_none (Function.update_self ..)).mpr
        rw [failuresSince_of_goesOn rfl (by rfl)]
        cases own : e.retryAfter? with
        | none =>
            rw [FailureCount.of_delayAfter _ _ own, count]
            simp [Ending.isCounted, own, FailureCount.increment_capped]
        | some after =>
            simpa [FailureCount.delayAfter, Ending.isCounted, own] using count
      · rfl
      · intro other differ
        exact FailureCount.of_delayAfter_of_ne _ _ differ
      · exact fun other differ => failuresSince_of_ne rfl differ

theorem Reachable.isSound (h : Reachable config s) : IsSound s := by
  induction h with
  | refl => exact isSound_start
  | tail _ step ih => exact ih.next step

/-- A failure that asks for a delay of its own gets it and is not counted. The delay after any other
failure goes by the failures of the object since its last run that succeeded and did not pass it
over. It is the delay by the failures since its last run that succeeded at all exactly when these
are as many, or when that delay is the longest one. -/
theorem delay_after_failure {e : Error} {delay : Delay} (reachable : Reachable config s)
    (step : Step config s s') (failed : s'.log = (t, .failed e delay) :: s.log) :
    match e.retryAfter? with
    | some own => delay = own ∧ s'.counts = s.counts
    | none =>
      delay = config.backoff.delay (capped (s.failuresSince Ending.isSettling t + 1)) ∧
        (delay = config.backoff.delay (capped (s.failuresSince Ending.isReturn t + 1)) ↔
          s.failuresSince Ending.isSettling t = s.failuresSince Ending.isReturn t ∨
            config.backoff.seconds (s.failuresSince Ending.isReturn t + 1) =
              config.backoff.longest) := by
  cases step with
  | begins => exact absurd failed.symm (List.cons_ne_self _ _)
  | asks => exact absurd failed.symm (List.cons_ne_self _ _)
  | returns => cases (List.cons.inj failed).1
  | @fails _ _ _ _ counts finished chosen =>
      cases (List.cons.inj failed).1
      obtain ⟨-, count⟩ := reachable.isSound.of_failed finished
      unfold FailureCount.delayAfter at chosen
      split
      next own eq =>
        rw [eq] at chosen
        obtain ⟨rfl, rfl⟩ := Prod.mk.inj chosen
        exact ⟨rfl, rfl⟩
      next counted =>
        rw [counted] at chosen
        have delayed : delay =
            config.backoff.delay (capped (s.failuresSince Ending.isSettling t + 1)) := by
          rw [← FailureCount.increment_capped, ← count]
          unfold FailureCount.next at chosen
          exact (Prod.mk.inj chosen).1.symm
        have fewer : s.failuresSince Ending.isReturn t ≤ s.failuresSince Ending.isSettling t :=
          failuresSince_le fun _ => Ending.isReturn_of_isSettling
        refine ⟨delayed, ?_⟩
        rw [delayed]
        exact config.backoff.delay_capped_eq_iff fewer

end Soundness

section Sample

/-- A machine for the runs below. -/
def worker : Target where
  kind := .infraMachine
  «namespace» := some "default"
  name := "worker-0"

/-- An API server that does not answer for the moment. -/
def unavailable : ApiFailure := .refused "try again" "InternalError" 500

/-- The answer for a machine that is gone. -/
def missing : ApiFailure := .refused "not found" "NotFound" 404

theorem isAddressable_worker : worker.IsAddressable := by
  rintro here ⟨⟩
  decide

/-- The run for the worker fetches it first. It fails when that fails, and passes the worker over
when it is gone. -/
theorem exists_fetch_worker : ∃ next : Answer (.fetch .infraMachine "default" "worker-0") → _,
    worker.judgedRun? {} Gzip.encode =
        some (.ask (.fetch .infraMachine "default" "worker-0") next) ∧
      next (.error unavailable) = .done (false, .finished (.error (.api unavailable))) ∧
      next (.error missing) = .done (true, .finished (.ok .awaitChange)) :=
  ⟨_, rfl, rfl, rfl⟩

/-- A run for the worker gets as far as an answer to its first question. -/
theorem Reachable.fetch_worker {s : State} (h : Reachable {} s) (free : s.flight worker = none)
    {q : Question} {next : Answer q → Controller (Bool × Run)}
    (known : worker.judgedRun? {} Gzip.encode = some (.ask q next)) (a : Answer q)
    (same : asked s.counts q = s.counts) :
    ∃ s', Reachable {} s' ∧ s'.flight worker = some (next a) ∧ s'.counts = s.counts ∧
      s'.log = s.log := by
  have begun := h.tail (.begins isAddressable_worker free known)
  have answered := begun.tail (.asks (Function.update_self ..) a)
  exact ⟨_, answered, by simp only [Function.update_self], same, rfl⟩

/-- After a failure, a run that finds the worker gone, and another failure, the delay is ten seconds
and not the five that follow a first failure. -/
theorem delay_after_failure_of_worker : ∃ s s', Reachable {} s ∧ Step {} s s' ∧
    s'.log = (worker, .failed (.api unavailable) (.ofSeconds 10)) :: s.log ∧
    s.failuresSince Ending.isSettling worker = 1 ∧ s.failuresSince Ending.isReturn worker = 0 ∧
    Delay.ofSeconds 10 = ({} : Config).backoff.delay (capped 2) ∧
    Delay.ofSeconds 10 ≠ ({} : Config).backoff.delay (capped 1) := by
  obtain ⟨next, known, fails, passes⟩ := exists_fetch_worker
  have start : Reachable {} State.start := .refl
  obtain ⟨s1, h1, f1, c1, l1⟩ := start.fetch_worker rfl known (.error unavailable) rfl
  have first : s1.counts.delayAfter ({} : Config).backoff worker.failureKey (.api unavailable) =
      (.ofSeconds 5, Dictionary.empty.insert worker.failureKey 1) := by
    rw [c1]
    rfl
  have failed := h1.tail (.fails (fails ▸ f1) first)
  obtain ⟨s2, h2, f2, c2, l2⟩ := Reachable.fetch_worker failed
    (by simp only [Function.update_self]) known (.error missing) rfl
  have passed := h2.tail (.returns (passes ▸ f2))
  obtain ⟨s3, h3, f3, c3, l3⟩ := Reachable.fetch_worker passed
    (by simp only [Function.update_self]) known (.error unavailable) rfl
  have second : s3.counts.delayAfter ({} : Config).backoff worker.failureKey (.api unavailable) =
      (.ofSeconds 10,
        (Dictionary.empty.insert worker.failureKey 1).insert worker.failureKey 2) := by
    rw [c3, c2]
    rfl
  have last : Step {} s3 _ := .fails (fails ▸ f3) second
  have log : s3.log =
      [(worker, .returned true), (worker, .failed (.api unavailable) (.ofSeconds 5))] := by
    rw [l3, l2, l1]
    rfl
  have settling : s3.failuresSince Ending.isSettling worker = 1 := by
    rw [State.failuresSince, log]
    rfl
  have returned : s3.failuresSince Ending.isReturn worker = 0 := by
    rw [State.failuresSince, log]
    rfl
  obtain ⟨delayed, same_iff⟩ := delay_after_failure h3 last rfl
  rw [settling, returned] at same_iff
  rw [settling] at delayed
  refine ⟨s3, _, h3, last, rfl, settling, returned, delayed, ?_⟩
  intro same
  rcases same_iff.mp same with more | longest
  · cases more
  · revert longest
    decide

end Sample

end Retry

end MachineProvider
