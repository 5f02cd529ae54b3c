import MachineProvider.Cluster.Run
import MachineProvider.Proofs.Content
import MachineProvider.Proofs.Object
import MachineProvider.Proofs.Machine.SingleInstance
import MachineProvider.Proofs.Writing

/-!
# Paused objects

An object is paused by an annotation of its own or through the cluster that it belongs to. The run
of a controller looks for the pause only when it has found all owners of its object. It leaves a
paused object alone when they are all there; otherwise it still does as long as the object is not
deleted or has lost its finalizer, since there is nothing to do then. A deleted object with its
finalizer is cleaned up in spite of the pause (`left_alone_iff`).
-/

namespace MachineProvider

open Controller Procedure

namespace ClusterApi

/-- Whether an object is paused, by its own annotation or through the cluster that it belongs to, if
that is there. -/
def IsPausedUnder (cluster : Option Cluster) (metadata : Metadata) : Prop :=
  hasPausedAnnotation metadata = true ∨
    ∃ c, cluster = some c ∧ (c.spec.paused = true ∨ hasPausedAnnotation c.metadata = true)

/-- When its cluster is there, the controllers see that an object is paused. -/
theorem IsPausedUnder.isPaused {cluster : Cluster} {metadata : Metadata}
    (h : IsPausedUnder (some cluster) metadata) : ClusterApi.isPaused cluster metadata = true := by
  unfold ClusterApi.isPaused
  rcases h with annotated | ⟨c, same, specified | annotated⟩
  · rw [annotated, Bool.or_true]
  · cases same
    rw [specified, Bool.true_or, Bool.true_or]
  · cases same
    rw [annotated, Bool.or_true, Bool.true_or]

end ClusterApi

namespace Content

/-- The cluster that owns an infrastructure cluster. -/
def ownerOf (content : Content) (c : InfraCluster) (here : String) : Option ClusterApi.Cluster :=
  match ClusterApi.ownerName? c.metadata ClusterApi.Cluster.type.kind with
  | none => none
  | some name => content.get? .cluster here name

/-- Whether a run leaves everything alone: it asks nothing but harmless questions, and has nothing
to do until something changes. -/
def LeavesAlone (content : Content) (started : Bool) (run : Controller Run) : Prop :=
  run.Follows (content.reading started fun _ => False)
    (fun result _ => result = .finished (.ok .awaitChange)) ()

variable {content : Content} {started : Bool} {here name : String}

/-- The owner that a run finds for a cluster is the one that is there. -/
theorem follows_owner {may : Question → Prop} {c : InfraCluster} (storable : c.metadata.IsStorable)
    (post : Except Error (Option ClusterApi.Cluster) → Unit → Prop) :
    (c.owner here).Follows (content.reading started may) post () ↔
      post (.ok (content.ownerOf c here)) () := by
  unfold InfraCluster.owner ownerOf
  cases owned : ClusterApi.ownerName? c.metadata ClusterApi.Cluster.type.kind with
  | none => rfl
  | some owner => exact follows_fetchOptional .cluster (storable.ne_of_ownerName? owned) post

end Content

section Write

variable {kind : Kind} {content : Content} {here name : String}

/-- An object whose finalizer was taken off is written, which is no way to leave it alone. -/
theorem Controller.not_follows_write {o : kind.Object} {finalizer : String} {α : Type}
    {post : α → Unit → Prop} {next : Except Error Unit → Controller α}
    (guarded : o.hasFinalizer finalizer = true) (named : o.metadata.name = some name)
    (nonempty : name ≠ "") :
    ¬ ((write kind here o (o.removeFinalizer finalizer)).bind next).Follows
      (content.reading true fun _ => False) post () := by
  have changed : (WritePlan.between o (o.removeFinalizer finalizer)).replaceObject = true := by
    simp only [WritePlan.between, Bool.or_eq_true, bne_iff_ne]
    exact .inl (o.finalizerList_removeFinalizer_ne finalizer guarded)
  rcases write_cases here o (o.removeFinalizer finalizer) with
    ⟨noop, -⟩ | ⟨unnamed, -⟩ | ⟨name, -, whole⟩ | ⟨name, unchanged, -⟩
  · rw [WritePlan.isNoop, changed] at noop
    cases noop
  · exact absurd (unnamed name named) (by simpa using nonempty)
  · rw [whole]
    rintro ⟨harmless | may, -⟩
    · exact harmless
    · exact may
  · rw [changed] at unchanged
    cases unchanged

end Write

namespace InfraMachine

variable {content : Content} {started : Bool} {here name : String} {config : Config}

/-- Without its finalizer there is nothing to clean up for a machine. -/
theorem cleanUp_of_bare {m : InfraMachine} (bare : m.hasFinalizer finalizer = false)
    (credentials : Option SecretLocation) :
    m.cleanUp credentials config = .done (m, .ok .awaitChange) := by
  simp [cleanUp, bare]

/-- When it is not known where the credentials are, a machine is let go. -/
theorem cleanUp_none {m : InfraMachine} (guarded : m.hasFinalizer finalizer = true) :
    m.cleanUp none config = .done m.release := by
  simp [cleanUp, guarded]

/-- A run ends with a machine that it did not change. -/
theorem leavesAlone_finish (m : InfraMachine) :
    content.LeavesAlone started (finish here name m (m, .ok .awaitChange)) := by
  unfold finish writeBack
  rw [write_self]
  exact ⟨.inl trivial, fun _ _ => rfl⟩

variable (gzip : Gzip.Compressor)

/-- Without all owners, a machine is left alone unless it is deleted and has its finalizer. -/
theorem leavesAlone_runWithOwners {m : InfraMachine} (named : m.metadata.name = some name)
    (nonempty : name ≠ "") :
    content.LeavesAlone started (runWithOwners here name m none config gzip) ↔
      started = true ∧ (m.metadata.isDeleted = true → m.hasFinalizer finalizer = false) := by
  refine Content.follows_startGuard.trans ?_
  cases started with
  | false => simp
  | true =>
      cases deleted : m.metadata.isDeleted with
      | false => simp
      | true =>
          change ((ofService (m.cleanUp none config)).bind (finish here name m)).Follows _ _ () ↔ _
          cases guarded : m.hasFinalizer finalizer with
          | false =>
              rw [cleanUp_of_bare guarded]
              exact iff_of_true (leavesAlone_finish m) ⟨rfl, fun _ => rfl⟩
          | true =>
              rw [cleanUp_none guarded]
              refine iff_of_false ?_ (by simp)
              intro left
              exact not_follows_write guarded named nonempty ((follows_bind ..).mp left)

/-- A paused machine is left alone when all of its owners are there, or there is nothing to do. -/
theorem leavesAlone_run {m : InfraMachine} (stored : content.get? .infraMachine here name = some m)
    (paused : ClusterApi.IsPausedUnder (content.clusterBehind m here).toOption m.metadata) :
    content.LeavesAlone started (run (some here) name config gzip) ↔
      (content.owners m here).toOption.isSome = true ∨
        started = true ∧ (m.metadata.isDeleted = true → m.hasFinalizer finalizer = false) := by
  refine (Content.follows_run stored).trans ?_
  cases owned : content.owners m here with
  | error link =>
      have named := Content.name_of_get? stored
      have nonempty := Content.ne_of_get? stored
      exact (leavesAlone_runWithOwners gzip named nonempty).trans (by simp [Except.toOption])
  | ok o =>
      rw [Content.clusterBehind_of_owners owned] at paused
      have seen : m.isPausedBy (some o) = true := paused.isPaused
      simp [Except.toOption, seen]

end InfraMachine

namespace InfraCluster

variable {content : Content} {started : Bool} {here name : String} {config : Config}

/-- Without its finalizer there is nothing to clean up for a cluster. -/
theorem cleanUp_of_bare {c : InfraCluster} (bare : c.hasFinalizer finalizer = false)
    (credentials : SecretLocation) : c.cleanUp credentials = .done (c, .ok .awaitChange) := by
  simp [cleanUp, bare]

/-- A cleanup begins with a read of the credentials. -/
theorem not_leavesAlone_cleanUp {c : InfraCluster} (guarded : c.hasFinalizer finalizer = true)
    (credentials : SecretLocation) {next : InfraCluster × Except Error Action → Controller Run} :
    ¬ content.LeavesAlone true ((ofService (c.cleanUp credentials)).bind next) := by
  unfold cleanUp
  rw [guarded]
  rintro ⟨harmless | may, -⟩
  · exact harmless
  · exact may

/-- Without its owner, a cluster is left alone unless it is deleted and has its finalizer. -/
theorem leavesAlone_runWithOwner {c : InfraCluster} :
    content.LeavesAlone started (runWithOwner here name c none config) ↔
      started = true ∧ (c.metadata.isDeleted = true → c.hasFinalizer finalizer = false) := by
  refine Content.follows_startGuard.trans ?_
  cases started with
  | false => simp
  | true =>
      cases deleted : c.metadata.isDeleted with
      | false => simp
      | true =>
          change content.LeavesAlone true ((ofService (c.cleanUp (.ofCluster c config))).bind
            (finish here name c)) ↔ _
          cases guarded : c.hasFinalizer finalizer with
          | false =>
              rw [cleanUp_of_bare guarded]
              refine iff_of_true ?_ ⟨rfl, fun _ => rfl⟩
              change content.LeavesAlone true (finish here name c (c, .ok .awaitChange))
              unfold finish
              rw [write_self]
              exact ⟨.inl trivial, fun _ _ => rfl⟩
          | true => exact iff_of_false (not_leavesAlone_cleanUp guarded _) (by simp)

/-- A paused cluster is left alone when its owner is there, or there is nothing to do. -/
theorem leavesAlone_run {c : InfraCluster} (stored : content.get? .infraCluster here name = some c)
    (paused : ClusterApi.IsPausedUnder (content.ownerOf c here) c.metadata) :
    content.LeavesAlone started (run (some here) name config) ↔
      (content.ownerOf c here).isSome = true ∨
        started = true ∧ (c.metadata.isDeleted = true → c.hasFinalizer finalizer = false) := by
  have nonempty := Content.ne_of_get? stored
  have storable := content.storable _ _ (Content.mem_of_get? stored)
  refine (follows_bind ..).trans ((Content.follows_fetchOptional _ nonempty _).trans ?_)
  rw [stored]
  refine (follows_bind ..).trans ((Content.follows_owner storable _).trans ?_)
  cases owned : content.ownerOf c here with
  | none => exact leavesAlone_runWithOwner.trans (by simp)
  | some owner =>
      rw [owned] at paused
      have seen : c.isPausedBy (some owner) = true := paused.isPaused
      simp [seen]

end InfraCluster

namespace Content

/-- When an object is paused, the run of its controller leaves it alone exactly when all of its
owners are there, or else the guard can be started and the object is not deleted or has lost its
finalizer. -/
theorem left_alone_iff (content : Content) (started : Bool) (here name : String) (config : Config)
    (gzip : Gzip.Compressor) :
    (∀ m, content.get? .infraMachine here name = some m →
      ClusterApi.IsPausedUnder (content.clusterBehind m here).toOption m.metadata →
      (content.LeavesAlone started (InfraMachine.run (some here) name config gzip) ↔
        (content.owners m here).toOption.isSome = true ∨ started = true ∧
          (m.metadata.isDeleted = true → m.hasFinalizer InfraMachine.finalizer = false))) ∧
      ∀ c, content.get? .infraCluster here name = some c →
        ClusterApi.IsPausedUnder (content.ownerOf c here) c.metadata →
        (content.LeavesAlone started (InfraCluster.run (some here) name config) ↔
          (content.ownerOf c here).isSome = true ∨ started = true ∧
            (c.metadata.isDeleted = true → c.hasFinalizer InfraCluster.finalizer = false)) :=
  ⟨fun _ stored paused => InfraMachine.leavesAlone_run gzip stored paused,
    fun _ stored paused => InfraCluster.leavesAlone_run stored paused⟩

/-- A deleted machine that is paused by its own annotation. -/
def samplePaused : InfraMachine where
  metadata :=
    { InfraMachine.sampleMachine.metadata with
      «namespace» := some "default"
      annotations := some (.ofList [(ClusterApi.pausedAnnotation, "true")])
      deletionTimestamp := some default }
  spec := { instanceType := "1V100.6V", providerId := some "datacrunch://i-1" }

/-- A content in which the owners of the machine are gone already. -/
def sampleOrphaned : Content :=
  .ofOptions
    (fun
      | .infraMachine => some samplePaused
      | _ => none)
    (by
      rintro kind o member
      cases kind with
      | infraMachine =>
          obtain rfl := Option.some.inj member
          exact ⟨rfl, ⟨"gpu-0", rfl, by decide⟩, by decide⟩
      | _ => cases member)

theorem left_alone_iff_of_sample :
    sampleOrphaned.get? .infraMachine "default" "gpu-0" = some samplePaused ∧
      ClusterApi.hasPausedAnnotation samplePaused.metadata = true ∧
      ¬ sampleOrphaned.LeavesAlone true
        (InfraMachine.run (some "default") "gpu-0" {} Gzip.encode) := by
  have stored : sampleOrphaned.get? .infraMachine "default" "gpu-0" = some samplePaused := rfl
  have annotated : ClusterApi.hasPausedAnnotation samplePaused.metadata = true := rfl
  have settled := left_alone_iff sampleOrphaned true "default" "gpu-0" {} Gzip.encode
  have left_iff := settled.1 samplePaused stored (.inl annotated)
  refine ⟨stored, annotated, ?_⟩
  rw [left_iff]
  decide

end Content

end MachineProvider
