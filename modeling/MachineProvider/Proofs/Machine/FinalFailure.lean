import MachineProvider.Proofs.Machine.Services
import MachineProvider.Proofs.Object
import MachineProvider.Proofs.Writing

/-!
# What a run does about a recorded failure

A failure that is recorded in the status of a machine is final. A run that reads such a machine leaves
the services alone, unless the machine is deleted, and what it writes has the failure too. The exception
is a write that was refused and is repeated on a version that was read again: it carries the status of
the first attempt. `Sight` is what a run has seen of the machine, and `run_follows_sight` says what it
does with it.
-/

namespace MachineProvider.InfraMachine

open Procedure Controller

/-- Whether the failure that one version records, if any, is still recorded in another. -/
structure KeepsFailure (earlier later : InfraMachine) : Prop where
  reason : earlier.statusOrNew.failureReason.isSome = true →
    later.statusOrNew.failureReason.isSome = true
  message : earlier.statusOrNew.failureMessage.isSome = true →
    later.statusOrNew.failureMessage.isSome = true

namespace KeepsFailure

variable {m o v : InfraMachine}

theorem trans (h : m.KeepsFailure o) (h' : o.KeepsFailure v) : m.KeepsFailure v where
  reason := h'.reason ∘ h.reason
  message := h'.message ∘ h.message

theorem of_status (same : o.status = m.status) : m.KeepsFailure o where
  reason := by simp only [statusOrNew, same, imp_self]
  message := by simp only [statusOrNew, same, imp_self]

theorem isFailed (h : m.KeepsFailure o) (failed : m.isFailed = true) : o.isFailed = true := by
  rcases Bool.or_eq_true_iff.mp failed with reason | message
  · exact Bool.or_eq_true_iff.mpr (.inl (h.reason reason))
  · exact Bool.or_eq_true_iff.mpr (.inr (h.message message))

theorem of_not_failed (sound : m.isFailed = false) : m.KeepsFailure o := by
  obtain ⟨reason, message⟩ := Bool.or_eq_false_iff.mp sound
  exact
    { reason := fun set => absurd set (by simp [reason])
      message := fun set => absurd set (by simp [message]) }

end KeepsFailure

/-- What a run has seen of its machine. -/
structure Sight where
  /-- The version that was read or written last. -/
  known : Option InfraMachine := none
  /-- What the run tried to write last in vain. -/
  own : Option InfraMachine := none

namespace Sight

/-- What has been seen after an answer. -/
def next (s : Sight) : (q : Controller.Question) → Controller.Answer q → Sight
  | .fetch .infraMachine _ _, .ok m => { s with known := some m }
  | .replace .infraMachine _ _ _, .ok m => { s with known := some m }
  | .replace .infraMachine _ _ o, .error _ => { known := none, own := some o }
  | .replaceStatus .infraMachine _ _ o, .error _ => { s with own := some o }
  | _, _ => s

/-- Whether the services may be used: no failure has been seen, or the machine is deleted. -/
def MayServe (s : Sight) : Prop :=
  ∃ m, s.known = some m ∧ (m.isFailed = true → m.metadata.isDeleted = true)

/-- Whether a question is one to the cloud, or prepares such a question: a request, or setting up a
client. -/
def Engages : Service.Question → Prop
  | .call _ => True
  | .connect _ => True
  | .publish _ => False
  | .now => False

/-- What a run may ask. It writes only over the version that it knows, and no status that lacks the
failure of that version. -/
def May (s : Sight) : Controller.Question → Prop
  | .service q => Engages q → s.MayServe
  | .replace .infraMachine _ _ o => ∃ m, s.known = some m ∧ version o = version m
  | .replaceStatus .infraMachine _ _ o =>
    ∃ m, s.known = some m ∧ version o = version m ∧ KeepsFailure m o
  | .replace .. => False
  | .replaceStatus .. => False
  | _ => True

/-- Whether a version that is read again after a write in vain records no failure that the write
lacked. -/
def Heeds (s : Sight) : (q : Controller.Question) → Controller.Answer q → Prop
  | .fetch .infraMachine _ _, .ok m => ∀ o, s.own = some o → KeepsFailure m o
  | _, _ => True

/-- A write of metadata and specification leaves the status as it was. -/
def KeepsStatus (s : Sight) : (q : Controller.Question) → Controller.Answer q → Prop
  | .replace .infraMachine _ _ _, .ok v => ∀ m, s.known = some m → v.status = m.status
  | _, _ => True

/-- The rules for what a run does about a recorded failure. -/
def discipline : Discipline Controller.Question Controller.Answer Sight where
  next := next
  may := May
  expects s q a := s.Heeds q a ∧ s.KeepsStatus q a

end Sight

section Reconciled

variable {m : InfraMachine} {config : Config} {gzip : Gzip.Compressor}

theorem working_learn (m : InfraMachine) : (Progress.learn {} m).Working m m :=
  .of_known rfl rfl id rfl

/-- What keeps to the rules of every run gives back, whatever the services answer, what can be written
over the version that it began with. -/
theorem yields_of_carries {p : Service (InfraMachine × Except Error Action)}
    (h : p.Follows (Progress.discipline False "").onServices (fun r s' => s'.Carries False m r.1)
      (Progress.learn {} m)) :
    p.Yields fun r => version r.1 = version m := by
  have expected := h.yields fun _ _ _ => ⟨trivial, trivial, False.elim⟩
  refine expected.mono ?_
  rintro r ⟨s', carries⟩
  exact carries.prepared.version

/-- A machine with a recorded failure is given back as it is, and nothing is asked. -/
theorem reconcile_of_isFailed (scope : MachineScope) (failed : m.isFailed = true) :
    m.reconcile scope config gzip = .done (m, .ok .awaitChange) := by
  unfold reconcile
  rw [if_pos failed]
  rfl

theorem yields_tearDown : (m.tearDown config).Yields fun r => r.1.status = m.status := by
  unfold tearDown
  refine Yields.bind (yields_of_forall (fun _ => trivial) m.findInstance) ?_
  rintro (e | found | found) -
  · cases e <;> rfl
  · rfl
  · refine Yields.bind (yields_of_forall (fun _ => trivial) (Service.call (.deleteInstance found.id))) ?_
    rintro (e | ⟨⟩) -
    · dsimp only
      split
      · exact fun _ => rfl
      · rfl
    · exact fun _ => rfl

/-- Cleaning up after a machine leaves its status as it is. -/
theorem yields_status_cleanUp (credentials : Option SecretLocation) :
    (m.cleanUp credentials config).Yields fun r => r.1.status = m.status := by
  unfold cleanUp
  split
  · rfl
  cases credentials with
  | none => rfl
  | some location =>
      refine Yields.bind (yields_of_forall (fun _ => trivial) (Service.connect location)) ?_
      rintro (e | ⟨⟩) -
      · rfl
      · exact yields_tearDown

/-- Whether a machine that was reconciled may be written over the version `m`. -/
def Succeeds (m o : InfraMachine) : Prop :=
  version o = version m ∧ KeepsFailure m o

variable {s : Sight}

/-- A service that may be used is not looked at further. -/
theorem follows_services {P : InfraMachine × Except Error Action → Prop}
    {p : Service (InfraMachine × Except Error Action)} (yields : p.Yields P) (may : s.MayServe) :
    (ofService p).Follows Sight.discipline (fun r s' => s' = s ∧ P r) s := by
  refine (follows_ofService _ _ _ _).mpr (yields.follows ?_ ?_)
  · exact fun _ _ => may
  · exact fun _ _ => rfl

/-- A reconcile uses the services only when no failure is recorded. -/
theorem follows_reconciled (scope : MachineScope) (known : s.known = some m)
    (alive : m.metadata.isDeleted = false) :
    (ofService (m.reconcile scope config gzip)).Follows Sight.discipline
      (fun r s' => s' = s ∧ Succeeds m r.1) s := by
  cases failed : m.isFailed with
  | true =>
      rw [reconcile_of_isFailed scope failed]
      exact ⟨rfl, rfl, .of_status rfl⟩
  | false =>
      have sound : m.isFailed = true → m.metadata.isDeleted = true := by
        rw [failed]
        exact nofun
      have yields : (m.reconcile scope config gzip).Yields fun r => version r.1 = version m :=
        yields_of_carries (follows_reconcile scope (working_learn m) rfl alive)
      refine follows_services (yields.mono ?_) ⟨m, known, sound⟩
      exact fun r version => ⟨version, .of_not_failed failed⟩

/-- A cleanup may use the services. -/
theorem follows_cleanedUp (credentials : Option SecretLocation) (known : s.known = some m)
    (deleted : m.metadata.isDeleted = true) :
    (ofService (m.cleanUp credentials config)).Follows Sight.discipline
      (fun r s' => s' = s ∧ Succeeds m r.1) s := by
  have yields : (m.cleanUp credentials config).Yields fun r => version r.1 = version m :=
    yields_of_carries (follows_cleanUp credentials (working_learn m) rfl deleted False.elim)
  have both := yields.and (yields_status_cleanUp credentials)
  refine follows_services (both.mono ?_) ⟨m, known, fun _ => deleted⟩
  exact fun r kept => ⟨kept.1, .of_status kept.2⟩

end Reconciled

section Writes

variable {here name : String} {m o : Kind.infraMachine.Object} {s : Sight}

/-- What is known when a write was rejected because the machine has changed: which status it had. -/
def Refused (o : InfraMachine) (result : Except Error Unit) (s : Sight) : Prop :=
  isConflict result = true → ∃ w, s.own = some w ∧ w.status = o.status

theorem follows_noted (plan : WritePlan) (known : s.known = some m) (onto : version o = version m)
    (keeps : KeepsFailure m o) {o' : InfraMachine} (status : o.status = o'.status) :
    (writeStatus .infraMachine here name plan o).Follows Sight.discipline (Refused o') s := by
  rcases writeStatus_cases here name plan o with ⟨-, whole⟩ | ⟨-, whole⟩ | whole
  · rw [whole]
    exact nofun
  · rw [whole]
    exact nofun
  · rw [whole]
    refine ⟨⟨m, known, onto, keeps⟩, ?_⟩
    rintro (e | ⟨⟩) -
    · exact fun _ => ⟨o, rfl, status⟩
    · exact nofun

/-- A machine is written over the known version, and its failure stays recorded. -/
theorem follows_written (known : s.known = some m) (succeeds : Succeeds m o) :
    (write .infraMachine here m o).Follows Sight.discipline (Refused o) s := by
  obtain ⟨onto, keeps⟩ := succeeds
  rcases write_cases here m o with
    ⟨-, whole⟩ | ⟨-, e, other, whole⟩ | ⟨name, -, whole⟩ | ⟨name, -, whole⟩
  · rw [whole]
    exact nofun
  · rw [whole]
    intro conflict
    exact absurd (other.symm.trans conflict) nofun
  · rw [whole]
    refine ⟨⟨m, known, onto⟩, ?_⟩
    rintro (e | v) ⟨-, kept⟩
    · exact fun _ => ⟨o, rfl, rfl⟩
    · have same : v.status = m.status := kept m known
      have keeps' : KeepsFailure v (o.adoptVersion v) :=
        (KeepsFailure.of_status same.symm).trans (keeps.trans (.of_status rfl))
      have onto' : version (o.adoptVersion v) = version v := rfl
      exact follows_noted _ rfl onto' keeps' rfl
  · rw [whole]
    exact follows_noted _ known onto keeps rfl

/-- The latest version takes the status of the version that could not be written. -/
theorem succeeds_of_rebase? {latest stamped rebased : InfraMachine}
    (rebases : rebase? latest stamped = some rebased) (keeps : KeepsFailure latest stamped) :
    Succeeds latest rebased := by
  unfold rebase? at rebases
  split at rebases
  · cases rebases
  split at rebases
  · cases rebases
  obtain rfl := Option.some.inj rebases
  refine ⟨?_, keeps.trans (.of_status rfl)⟩
  change version (if _ then _ else _ : InfraMachine) = version latest
  split
  · exact Object.addFinalizer_resourceVersion _ _
  · rfl

/-- A write is repeated on a version that was read again. -/
theorem follows_writtenOnLatest {stamped w : InfraMachine} (own : s.own = some w)
    (same : w.status = stamped.status) :
    (writeOnLatest here name stamped).Follows Sight.discipline (fun _ _ => True) s := by
  unfold writeOnLatest Controller.fetch
  split
  · trivial
  refine ⟨trivial, ?_⟩
  rintro (e | latest) ⟨heeds, -⟩
  · trivial
  have keeps : KeepsFailure latest stamped := (heeds w own).trans (.of_status same.symm)
  simp only [Procedure.done_bind]
  cases rebases : rebase? latest stamped with
  | none => trivial
  | some rebased =>
      refine (follows_written rfl (succeeds_of_rebase? rebases keeps)).mono ?_
      exact fun _ _ _ => trivial

theorem follows_writtenBack (known : s.known = some m) (succeeds : Succeeds m o) :
    (writeBack here name m o).Follows Sight.discipline (fun _ _ => True) s := by
  unfold writeBack
  refine (follows_written known succeeds).bind ?_
  intro result s' refused
  split
  next again =>
    obtain ⟨conflict, -⟩ := Bool.and_eq_true_iff.mp again
    obtain ⟨w, own, same⟩ := refused conflict
    exact follows_writtenOnLatest own same
  · trivial

theorem follows_finished {reconciled : InfraMachine × Except Error Action}
    (known : s.known = some m) (succeeds : Succeeds m reconciled.1) :
    (finish here name m reconciled).Follows Sight.discipline (fun _ _ => True) s := by
  unfold finish
  refine (follows_writtenBack known succeeds).bind ?_
  intro written s' _
  unfold conclude
  split
  · trivial
  · exact ⟨trivial, fun _ _ => trivial⟩

end Writes

section Runs

variable {here name : String} {m : InfraMachine} {s : Sight} {config : Config}

/-- Looking for the owners shows nothing of the machine. -/
theorem keeps_readOwners : (m.owners here).Keeps Sight.discipline s := by
  refine keeps_owners (fun _ _ _ => trivial) ?_
  intro kind name answer foreign
  cases kind with
  | infraMachine => exact absurd rfl foreign
  | _ => rfl

theorem follows_ranWithOwners (owners : Option Owners) (gzip : Gzip.Compressor)
    (known : s.known = some m) :
    (runWithOwners here name m owners config gzip).Follows Sight.discipline (fun _ _ => True)
      s := by
  unfold runWithOwners
  refine ⟨trivial, ?_⟩
  intro started _
  cases started with
  | false => trivial
  | true =>
      cases deleted : m.metadata.isDeleted with
      | true =>
          refine (follows_cleanedUp _ known deleted).bind ?_
          rintro reconciled s' ⟨rfl, succeeds⟩
          exact follows_finished known succeeds
      | false =>
          cases owners with
          | none => trivial
          | some o =>
              refine (follows_reconciled _ known deleted).bind ?_
              rintro reconciled s' ⟨rfl, succeeds⟩
              exact follows_finished known succeeds

/-- Every run heeds a recorded failure, whatever it is answered. -/
theorem run_follows_sight (here name : String) (config : Config) (gzip : Gzip.Compressor) :
    (run (some here) name config gzip).Follows Sight.discipline (fun _ _ => True) {} := by
  unfold run
  have read : (fetchOptional .infraMachine here name).Follows Sight.discipline
      (fun result s => ∀ m, result = .ok (some m) → s.known = some m) {} := by
    unfold fetchOptional
    split
    · exact fun _ failed => nomatch failed
    · refine ⟨trivial, ?_⟩
      intro answer _ m found
      obtain rfl := ApiAnswer.eq_of_present found
      rfl
  refine read.bind ?_
  rintro (e | before | before) s known
  · trivial
  · trivial
  refine Follows.bind keeps_readOwners ?_
  rintro (e | owners) s' rfl
  · trivial
  dsimp only
  split
  · trivial
  · exact follows_ranWithOwners owners gzip (known before rfl)

end Runs

end MachineProvider.InfraMachine
