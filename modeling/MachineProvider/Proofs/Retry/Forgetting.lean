import MachineProvider.Cluster.Run
import MachineProvider.Machine.Run
import MachineProvider.Proofs.Writing
import MachineProvider.Proofs.Machine.Progress

/-!
# When a run forgets the failures before it

A run that succeeds ends a row of failures of its object, but not every such run forgets them. It
passes its object over when the object is gone or paused, or waits for its owners; then it succeeds
before it gets as far as forgetting. The runs for machines and for clusters follow one routine
(`Routine.run`), and a judged run is the run with whether it passes its object over. It forgets the
failures of its own object and of no other, and it does so exactly when it succeeds and does not
pass the object over (`Routine.follows_judgedRun`).
-/

namespace MachineProvider

open Controller Procedure

/-- The parts of the runs for the objects of a kind. -/
structure Routine (kind : Kind) where
  /-- What has to be there besides the object. -/
  Owners : Type
  timeout : Delay
  owners : kind.Object → String → Controller (Except Error (Option Owners))
  isPausedBy : kind.Object → Option Owners → Bool
  cleanUp : kind.Object → Option Owners → Service (kind.Object × Except Error Action)
  reconcile : String → kind.Object → Owners → Service (kind.Object × Except Error Action)
  writeBack : String → String → kind.Object → kind.Object → Controller (Except Error Unit)

namespace Routine

variable {kind : Kind} (c : Routine kind)

/-- Writes an object back and ends the run. -/
def finish (here name : String) (before : kind.Object)
    (reconciled : kind.Object × Except Error Action) : Controller Run := do
  let written ← c.writeBack here name before reconciled.1
  conclude kind here name reconciled.2 written

/-- Goes on with an object that is not paused. -/
def work (here name : String) (before : kind.Object) (known : Option c.Owners) : Controller Run :=
  .ask (.startGuard c.timeout) fun started => do
    if !started then return .crashed
    else if before.metadata.isDeleted then
      c.finish here name before (← ofService (c.cleanUp before known))
    else
      match known with
      | none => return .finished (.ok .awaitChange)
      | some o => c.finish here name before (← ofService (c.reconcile here before o))

/-- A run for the object with a name in a namespace. -/
def run («namespace» : Option String) (name : String) : Controller Run := do
  match «namespace» with
  | none => return .finished (.error .missingObjectKey)
  | some here =>
    match ← fetchOptional kind here name with
    | .error e => return .finished (.error e)
    | .ok none => return .finished (.ok .awaitChange)
    | .ok (some before) =>
      match ← c.owners before here with
      | .error e => return .finished (.error e)
      | .ok known =>
        if c.isPausedBy before known then return .finished (.ok .awaitChange)
        else c.work here name before known

/-- A run, with whether it passes its object over: the object is gone, or it is paused, or it is to
be reconciled and its owners are not all there. -/
def judgedRun («namespace» : Option String) (name : String) : Controller (Bool × Run) := do
  match «namespace» with
  | none => return (false, .finished (.error .missingObjectKey))
  | some here =>
    match ← fetchOptional kind here name with
    | .error e => return (false, .finished (.error e))
    | .ok none => return (true, .finished (.ok .awaitChange))
    | .ok (some before) =>
      match ← c.owners before here with
      | .error e => return (false, .finished (.error e))
      | .ok known =>
        if c.isPausedBy before known then return (true, .finished (.ok .awaitChange))
        else
          let result ← c.work here name before known
          return (!before.metadata.isDeleted && known.isNone, result)

/-- A judged run is the run. -/
theorem run_eq_judgedRun («namespace» : Option String) (name : String) :
    c.run «namespace» name = (c.judgedRun «namespace» name).bind fun judged => .done judged.2 := by
  unfold run judgedRun
  cases «namespace» with
  | none => rfl
  | some here =>
      change (fetchOptional kind here name).bind _ = Procedure.bind (Procedure.bind _ _) _
      rw [bind_bind]
      refine congrArg _ (funext ?_)
      rintro (e | before | before)
      · rfl
      · rfl
      change (c.owners before here).bind _ = Procedure.bind (Procedure.bind _ _) _
      rw [bind_bind]
      refine congrArg _ (funext ?_)
      rintro (e | known)
      · rfl
      dsimp only
      split
      · rfl
      · exact ((bind_bind _ _ _).trans (bind_done _)).symm

end Routine

/-- The discipline of a run that forgets the failures under one key, and does so once at most. Its
record says whether the failures have been forgotten. -/
def forgetting (key : String) : Discipline Question Answer Bool where
  next forgotten q _ :=
    match q with
    | .forgetFailures _ => true
    | _ => forgotten
  may forgotten q :=
    match q with
    | .forgetFailures other => other = key ∧ forgotten = false
    | _ => True
  expects _ _ _ := True

/-- Whether a run that ends has forgotten the failures of its object exactly when it has succeeded
and did not pass the object over. -/
def Suits (judged : Bool × Run) (forgotten : Bool) : Prop :=
  forgotten = true ↔ judged.1 = false ∧ ∃ action, judged.2 = .finished (.ok action)

section Parts

variable {key : String}

theorem ignoresWrites_forgetting (kind : Kind) : IgnoresWrites (forgetting key) false kind where
  mayReplace _ _ _ := trivial
  sameReplace _ _ _ _ := rfl
  mayReplaceStatus _ _ _ := trivial
  sameReplaceStatus _ _ _ _ := rfl

theorem keeps_fetchOptional_forgetting (kind : Kind) (here name : String) :
    (fetchOptional kind here name).Keeps (forgetting key) false :=
  keeps_fetchOptional trivial fun _ => rfl

/-- The services forget no failures. -/
theorem keeps_ofService_forgetting {α : Type} (service : Service α) :
    (ofService service).Keeps (forgetting key) false :=
  keeps_ofService_of_forall (fun _ => trivial) (fun _ _ => rfl) service

/-- The end of a run forgets the failures of its object exactly when the run succeeds. -/
theorem follows_conclude (kind : Kind) (here name : String) (outcome : Except Error Action)
    (written : Except Error Unit) :
    (conclude kind here name outcome written).Follows
      (forgetting (objectKey kind.type.kind here name)) (fun r => Suits (false, r)) false := by
  unfold conclude
  cases combine outcome written with
  | error e => simp [Suits]
  | ok action =>
      refine ⟨⟨rfl, rfl⟩, fun _ _ => ?_⟩
      exact iff_of_true rfl ⟨rfl, action, rfl⟩

end Parts

namespace Routine

variable {kind : Kind} {c : Routine kind}

/-- Whether reading the owners and writing back forget nothing. -/
structure IsMindful (c : Routine kind) : Prop where
  owners : ∀ key before here, (c.owners before here).Keeps (forgetting key) false
  writeBack : ∀ key here name before after,
    (c.writeBack here name before after).Keeps (forgetting key) false

theorem follows_finish (h : c.IsMindful) (here name : String) (before : kind.Object)
    (reconciled : kind.Object × Except Error Action) :
    (c.finish here name before reconciled).Follows
      (forgetting (objectKey kind.type.kind here name)) (fun r => Suits (false, r)) false := by
  unfold finish
  apply Follows.bind (h.writeBack _ here name before reconciled.1)
  rintro written _ rfl
  exact follows_conclude kind here name _ _

theorem follows_work (h : c.IsMindful) (here name : String) (before : kind.Object)
    (known : Option c.Owners) :
    (c.work here name before known).Follows (forgetting (objectKey kind.type.kind here name))
      (fun r => Suits (!before.metadata.isDeleted && known.isNone, r)) false := by
  unfold work
  refine ⟨trivial, fun started _ => ?_⟩
  change Follows _ _ (if _ then _ else _) false
  cases started with
  | false => exact iff_of_false Bool.false_ne_true fun h => nomatch h.2
  | true =>
      cases before.metadata.isDeleted with
      | true =>
          apply Follows.bind (keeps_ofService_forgetting _)
          rintro reconciled _ rfl
          exact follows_finish h here name before reconciled
      | false =>
          cases known with
          | none => exact iff_of_false Bool.false_ne_true fun h => nomatch h.1
          | some o =>
              apply Follows.bind (keeps_ofService_forgetting _)
              rintro reconciled _ rfl
              exact follows_finish h here name before reconciled

/-- A run forgets the failures of its object when it succeeds, unless it passes the object over. -/
theorem follows_judgedRun (h : c.IsMindful) («namespace» : Option String) (name : String) :
    (c.judgedRun «namespace» name).Follows
      (forgetting (objectKey kind.type.kind («namespace».getD "") name)) Suits false := by
  unfold judgedRun
  cases «namespace» with
  | none => simp [Suits]
  | some here =>
      apply Follows.bind (keeps_fetchOptional_forgetting kind here name)
      rintro (e | before | before) _ rfl
      · simp [Suits]
      · simp [Suits]
      apply Follows.bind (h.owners _ before here)
      rintro (e | known) _ rfl
      · simp [Suits]
      dsimp only
      split
      · simp [Suits]
      · apply (follows_work h here name before known).bind
        exact fun _ _ suits => suits

end Routine

namespace InfraMachine

section WriteBack

variable {σ : Type} {d : Discipline Question Answer σ} {s : σ}

/-- Writing a machine back leaves a record as it is when its requests do. -/
theorem keeps_writeBack {here name : String} {before after : InfraMachine}
    (ignores : IgnoresWrites d s .infraMachine)
    (may : ∀ here name, d.may s (.fetch .infraMachine here name))
    (same : ∀ here name a, d.next s (.fetch .infraMachine here name) a = s) :
    (writeBack here name before after).Keeps d s := by
  unfold writeBack
  apply Keeps.bind (keeps_write ignores _ _)
  intro written
  split
  · unfold writeOnLatest
    apply Keeps.bind
    · unfold fetch
      split
      · exact keeps_done _ _
      · apply Keeps.ask (may _ _) (same _ _)
        rintro (e | latest) <;> exact keeps_done _ _
    · rintro (e | latest)
      · exact keeps_done _ _
      dsimp only
      split
      · exact keeps_done _ _
      · exact keeps_write ignores _ _
  · exact keeps_done _ _

end WriteBack

/-- The routine of the runs for machines. -/
def routine (config : Config) (gzip : Gzip.Compressor) : Routine .infraMachine where
  Owners := Owners
  timeout := config.reconcileTimeout
  owners := owners
  isPausedBy := isPausedBy
  cleanUp m known :=
    cleanUp m (known.map fun o => SecretLocation.ofCluster o.infraCluster config) config
  reconcile here m o := reconcile m (.ofOwners o here config) config gzip
  writeBack := writeBack

theorem runWithOwners_eq_work (here name : String) (before : InfraMachine) (known : Option Owners)
    (config : Config) (gzip : Gzip.Compressor) :
    runWithOwners here name before known config gzip =
      (routine config gzip).work here name before known := by
  unfold runWithOwners Routine.work
  refine congrArg (Procedure.ask _) (funext ?_)
  intro started
  cases started with
  | false => rfl
  | true => cases before.metadata.isDeleted <;> cases known <;> rfl

/-- A run for a machine follows the routine. -/
theorem run_eq_routine («namespace» : Option String) (name : String) (config : Config)
    (gzip : Gzip.Compressor) :
    run «namespace» name config gzip = (routine config gzip).run «namespace» name := by
  unfold run Routine.run
  cases «namespace» with
  | none => rfl
  | some here =>
      refine congrArg (fetchOptional .infraMachine here name).bind (funext ?_)
      rintro (e | before | before)
      · rfl
      · rfl
      refine congrArg (owners before here).bind (funext ?_)
      rintro (e | known)
      · rfl
      change ite _ _ _ = ite _ _ _
      rw [runWithOwners_eq_work]
      rfl

theorem isMindful_routine (config : Config) (gzip : Gzip.Compressor) :
    (routine config gzip).IsMindful where
  owners _ _ _ := keeps_owners (fun _ _ _ => trivial) fun _ _ _ _ => rfl
  writeBack _ _ _ _ _ :=
    keeps_writeBack (ignoresWrites_forgetting .infraMachine) (fun _ _ => trivial) fun _ _ _ => rfl

end InfraMachine

namespace InfraCluster

/-- The routine of the runs for clusters. -/
def routine (config : Config) : Routine .infraCluster where
  Owners := ClusterApi.Cluster
  timeout := config.reconcileTimeout
  owners := owner
  isPausedBy := isPausedBy
  cleanUp c _ := cleanUp c (.ofCluster c config)
  reconcile here c o := reconcile c
    { clusterName := o.metadata.anyName, «namespace» := here
      credentials := .ofCluster c config }
  writeBack here _ before after := write .infraCluster here before after

theorem runWithOwner_eq_work (here name : String) (before : InfraCluster)
    (known : Option ClusterApi.Cluster) (config : Config) :
    runWithOwner here name before known config = (routine config).work here name before known := by
  unfold runWithOwner Routine.work
  refine congrArg (Procedure.ask _) (funext ?_)
  intro started
  cases started with
  | false => rfl
  | true => cases before.metadata.isDeleted <;> cases known <;> rfl

/-- A run for a cluster follows the routine. -/
theorem run_eq_routine («namespace» : Option String) (name : String) (config : Config) :
    run «namespace» name config = (routine config).run «namespace» name := by
  unfold run Routine.run
  cases «namespace» with
  | none => rfl
  | some here =>
      refine congrArg (fetchOptional .infraCluster here name).bind (funext ?_)
      rintro (e | before | before)
      · rfl
      · rfl
      refine congrArg (owner before here).bind (funext ?_)
      rintro (e | known)
      · rfl
      change ite _ _ _ = ite _ _ _
      rw [runWithOwner_eq_work]
      rfl

theorem isMindful_routine (config : Config) : (routine config).IsMindful where
  owners key before here := by
    change (owner before here).Keeps _ _
    unfold owner
    split
    · exact keeps_done _ _
    · exact keeps_fetchOptional_forgetting .cluster here _
  writeBack key _ _ _ _ := keeps_write (ignoresWrites_forgetting .infraCluster) _ _

end InfraCluster

end MachineProvider
