import MachineProvider.Controller.Watch
import MachineProvider.Proofs.Content
import MachineProvider.Proofs.Machine.Advance
import Mathlib.Tactic.ByContra

/-!
# What wakes a waiting machine

When a run for a machine meets an obstacle (`Obstacle`), it ends and asks for no other one, so that
the machine waits until a change of some object is mapped to it by a watch. A change that clears the
obstacle is a change of its owning machine, its cluster or the infrastructure of that. The watches
map the first two to the machine when they name each other as they should; the infrastructure is not
watched for machines, and a machine that waits for it is not woken (`woken_iff`).
-/

namespace MachineProvider

open Controller Procedure

/-- Why a run for a machine waits for a change of another object. -/
inductive Obstacle where
  /-- A link of the chain to its owners is missing. -/
  | missing (link : Link)
  | paused
  /-- The infrastructure of the cluster is not ready. -/
  | infrastructure
  /-- The bootstrap data has not been made. -/
  | bootstrapData
  deriving DecidableEq, Repr

/-- Whether a run comes to an obstacle only after it has looked at the machine itself. -/
def Obstacle.IsGate : Obstacle → Prop
  | infrastructure => True
  | bootstrapData => True
  | _ => False

namespace InfraMachine.IsActive

variable {m : InfraMachine} {scope : MachineScope} {config : Config} {gzip : Gzip.Compressor}

/-- A machine that is worked on waits for the infrastructure of its cluster. -/
theorem reconcile_of_not_ready (h : m.IsActive) (unready : scope.infrastructureReady = false) :
    m.reconcile scope config gzip =
      (m.markNotReady Condition.waitingForClusterInfrastructure .info "").bind fun o =>
        .done (o, .ok .awaitChange) := by
  unfold reconcile
  rw [if_neg (Bool.eq_false_iff.mp h.sound), h.guarded, unready]
  rfl

/-- A machine that is worked on waits for its bootstrap data. -/
theorem reconcile_of_no_bootstrapData (h : m.IsActive) (ready : scope.infrastructureReady = true)
    (unmade : scope.bootstrapDataSecret.isNone = true) :
    m.reconcile scope config gzip =
      (m.markNotReady Condition.waitingForBootstrapData .info "").bind fun o =>
        .done (o, .ok .awaitChange) := by
  unfold reconcile
  rw [if_neg (Bool.eq_false_iff.mp h.sound), h.guarded, ready, unmade]
  rfl

/-- A machine that is worked on and waits for nothing is worked on with the credentials. -/
theorem reconcile_of_ready (h : m.IsActive) (ready : scope.infrastructureReady = true)
    (made : scope.bootstrapDataSecret.isNone = false) :
    ∃ next, m.reconcile scope config gzip =
      .ask (.call (.readSecret .credentials scope.credentials)) next := by
  unfold reconcile
  rw [if_neg (Bool.eq_false_iff.mp h.sound), h.guarded, ready, made]
  exact ⟨_, rfl⟩

end InfraMachine.IsActive

namespace Content

variable (content : Content) (m : InfraMachine) (here : String)

/-- The first obstacle that a run for a machine meets. -/
def obstacle? : Option Obstacle :=
  match content.owners m here with
  | .error link => some (.missing link)
  | .ok o =>
    if ClusterApi.isPaused o.cluster m.metadata then some .paused
    else if !o.cluster.infrastructureReady then some .infrastructure
    else if o.machine.spec.bootstrap.dataSecretName.isNone then some .bootstrapData
    else none

/-- How a run for a machine comes to its first obstacle, or to none. -/
inductive Finds : Option Obstacle → Prop
  | missing (link : Link) (broken : content.owners m here = .error link) :
    Finds (some (.missing link))
  | paused (o : Owners) (owned : content.owners m here = .ok o)
    (paused : ClusterApi.isPaused o.cluster m.metadata = true) : Finds (some .paused)
  | infrastructure (o : Owners) (owned : content.owners m here = .ok o)
    (unpaused : ClusterApi.isPaused o.cluster m.metadata = false)
    (unready : o.cluster.infrastructureReady = false) : Finds (some .infrastructure)
  | bootstrapData (o : Owners) (owned : content.owners m here = .ok o)
    (unpaused : ClusterApi.isPaused o.cluster m.metadata = false)
    (ready : o.cluster.infrastructureReady = true)
    (unmade : o.machine.spec.bootstrap.dataSecretName.isNone = true) : Finds (some .bootstrapData)
  | clear (o : Owners) (owned : content.owners m here = .ok o)
    (unpaused : ClusterApi.isPaused o.cluster m.metadata = false)
    (ready : o.cluster.infrastructureReady = true)
    (made : o.machine.spec.bootstrap.dataSecretName.isNone = false) : Finds none

theorem finds_obstacle? : content.Finds m here (content.obstacle? m here) := by
  unfold obstacle?
  cases owned : content.owners m here with
  | error link => exact .missing link owned
  | ok o =>
      dsimp only
      cases paused : ClusterApi.isPaused o.cluster m.metadata with
      | true => exact .paused o owned paused
      | false =>
          cases ready : o.cluster.infrastructureReady with
          | false => exact .infrastructure o owned paused ready
          | true =>
              cases made : o.machine.spec.bootstrap.dataSecretName.isNone with
              | true => exact .bootstrapData o owned paused ready made
              | false => exact .clear o owned paused ready made

/-- Whether a run for a machine stops at an obstacle. -/
structure StopsAt (obstacle : Obstacle) : Prop where
  met : content.obstacle? m here = some obstacle
  alive : m.metadata.isDeleted = false
  active : obstacle.IsGate → m.IsActive

/-- Whether a question only serves to report on a machine. -/
def Reports : Question → Prop
  | .service .now => True
  | .replaceStatus .infraMachine .. => True
  | _ => False

/-- Whether a run does nothing but report on its machine, and has nothing to do until something
changes. -/
def Waits (run : Controller Run) : Prop :=
  run.Follows (content.reading true Reports)
    (fun result _ => result = .finished (.ok .awaitChange)) ()

variable {content m here} {name : String} {config : Config} {obstacle : Obstacle}

/-- A report on a machine is written, which succeeds. -/
theorem follows_writeReport (named : m.metadata.name = some name) (nonempty : name ≠ "")
    (reason : String) (now : Timestamp) :
    (write .infraMachine here m (m.notReadyAt reason "" .info now)).Follows
      (content.reading true Reports) (fun written _ => written = .ok ()) () := by
  have filled : name.isEmpty = false := by simpa using nonempty
  have kept : (@WritePlan.between .infraMachine m
      (m.notReadyAt reason "" .info now)).replaceObject = false := by
    simp [WritePlan.between, InfraMachine.notReadyAt, InfraMachine.mapStatus]
  have renamed : (m.notReadyAt reason "" .info now).metadata.name = some name := named
  unfold write
  dsimp only
  split
  · exact rfl
  · rw [renamed]
    dsimp only
    rw [if_neg (Bool.eq_false_iff.mp kept)]
    unfold writeStatus
    split
    · exact rfl
    · rw [filled]
      refine ⟨.inr trivial, ?_⟩
      rintro _ rfl
      exact rfl

/-- A run that found a gate shut reports that, and ends. -/
theorem waits_report (named : m.metadata.name = some name) (nonempty : name ≠ "")
    (reason : String) :
    content.Waits (((ofService (m.markNotReady reason .info "")).bind fun o =>
      .done (o, .ok .awaitChange)).bind (InfraMachine.finish here name m)) := by
  refine ⟨.inr trivial, fun now _ => ?_⟩
  change content.Waits (InfraMachine.finish here name m
    (m.notReadyAt reason "" .info now, .ok .awaitChange))
  unfold InfraMachine.finish InfraMachine.writeBack
  refine (follows_bind ..).mpr ((follows_bind ..).mpr ?_)
  refine (follows_writeReport named nonempty reason now).mono ?_
  rintro written ⟨⟩ rfl
  exact ⟨.inl trivial, fun _ _ => rfl⟩

/-- A run for a machine that is not deleted, whose owners are there and do not pause it, reconciles
the machine. -/
theorem waits_reconciled {o : Owners} (stored : content.get? .infraMachine here name = some m)
    (alive : m.metadata.isDeleted = false) (owned : content.owners m here = .ok o)
    (unpaused : ClusterApi.isPaused o.cluster m.metadata = false) :
    content.Waits (InfraMachine.run (some here) name config gzip) ↔
      content.Waits ((ofService (m.reconcile (.ofOwners o here config) config gzip)).bind
        (InfraMachine.finish here name m)) := by
  have unseen : m.isPausedBy (some o) = false := unpaused
  refine (follows_run stored).trans ?_
  rw [owned, Except.toOption, unseen]
  refine follows_startGuard.trans ?_
  rw [alive]
  rfl

/-- A run that meets an obstacle waits. -/
theorem StopsAt.waits (stored : content.get? .infraMachine here name = some m)
    (stops : content.StopsAt m here obstacle) :
    content.Waits (InfraMachine.run (some here) name config gzip) := by
  have named := name_of_get? stored
  have nonempty := ne_of_get? stored
  have finds := content.finds_obstacle? m here
  rw [stops.met] at finds
  cases finds with
  | missing link broken =>
      refine (follows_run stored).mpr ?_
      rw [broken]
      refine follows_startGuard.mpr ?_
      rw [stops.alive]
      exact rfl
  | paused o owned paused =>
      have seen : m.isPausedBy (some o) = true := paused
      refine (follows_run stored).mpr ?_
      rw [owned, Except.toOption, seen]
      exact rfl
  | infrastructure o owned unpaused unready =>
      have shut : m.reconcile (.ofOwners o here config) config gzip = _ :=
        (stops.active trivial).reconcile_of_not_ready unready
      rw [waits_reconciled stored stops.alive owned unpaused, shut]
      exact waits_report named nonempty _
  | bootstrapData o owned unpaused ready unmade =>
      have shut : m.reconcile (.ofOwners o here config) config gzip = _ :=
        (stops.active trivial).reconcile_of_no_bootstrapData ready unmade
      rw [waits_reconciled stored stops.alive owned unpaused, shut]
      exact waits_report named nonempty _

/-- A run for a machine that is worked on does not wait when nothing is in its way. -/
theorem not_waits (stored : content.get? .infraMachine here name = some m)
    (alive : m.metadata.isDeleted = false) (active : m.IsActive)
    (clear : content.obstacle? m here = none) :
    ¬ content.Waits (InfraMachine.run (some here) name config gzip) := by
  have finds := content.finds_obstacle? m here
  rw [clear] at finds
  cases finds with
  | clear o owned unpaused ready made =>
      obtain ⟨next, whole⟩ :
          ∃ next, m.reconcile (.ofOwners o here config) config gzip = .ask _ next :=
        active.reconcile_of_ready ready made
      rw [waits_reconciled stored alive owned unpaused, whole]
      rintro ⟨harmless | reports, -⟩
      · exact harmless
      · exact reports

/-- One object of a content was created or updated. -/
structure Puts (before : Content) (kind : Kind) («namespace» name : String) (o : kind.Object)
    (after : Content) : Prop where
  stored : after.get? kind «namespace» name = some o
  others : ∀ kind' namespace' name', (kind', namespace', name') ≠ (kind, «namespace», name) →
    after.get? kind' namespace' name' = before.get? kind' namespace' name'

/-- Whether a change of an object is mapped to an infrastructure machine by a watch of the
controller for machines. -/
def Wakes (content : Content) (scope : WatchScope) (kind : Kind) (o : kind.Object) (m : Metadata) :
    Prop :=
  kind ∈ Watch.watched .infraMachine ∧ scope.covers o.metadata = true ∧
    Target.ofMetadata .infraMachine m ∈ Watch.targets content.machines kind o

/-- Whether an object is seen to concern an infrastructure machine: a machine refers to it, or it
carries the name of its cluster as a label. -/
def Concerns : (kind : Kind) → kind.Object → Metadata → Prop
  | .machine, machine, m =>
    ClusterApi.Machine.infrastructureName? machine InfraMachine.type.kind = m.name
  | .cluster, cluster, m => m.label? ClusterApi.clusterNameLabel = cluster.metadata.name
  | _, _, _ => False

section Change

variable {before after : Content} {kind : Kind} {«namespace» other : String} {o : kind.Object}

/-- The obstacle depends on nothing but the owners' kinds in the namespace of the machine. -/
theorem obstacle?_congr
    (same : ∀ kind, kind ≠ .infraMachine → ∀ name,
      after.get? kind here name = before.get? kind here name) :
    after.obstacle? m here = before.obstacle? m here := by
  have machines := same .machine (by decide)
  have clusters := same .cluster (by decide)
  have infraClusters := same .infraCluster (by decide)
  simp only [obstacle?, owners, ownersOfMachine, ownersFrom, machineOf, clusterOf, infraClusterOf,
    machines, clusters, infraClusters]

/-- A change that clears an obstacle is one of an owner in the namespace of the machine. -/
theorem Puts.of_cleared (puts : before.Puts kind «namespace» other o after)
    (cleared : after.obstacle? m here ≠ before.obstacle? m here) :
    kind ≠ .infraMachine ∧ «namespace» = here := by
  constructor
  · rintro rfl
    refine cleared (obstacle?_congr fun kind foreign name => ?_)
    exact puts.others _ _ _ fun same => foreign (congrArg Prod.fst same)
  · by_contra elsewhere
    refine cleared (obstacle?_congr fun kind _ name => ?_)
    exact puts.others _ _ _ fun same => elsewhere (congrArg (·.2.1) same).symm

/-- A target is the object with its namespace and name. -/
theorem ofMetadata_eq {metadata : Metadata} (placed : metadata.namespace = some here)
    (named : metadata.name = some name) (kind : Kind) :
    Target.ofMetadata kind metadata = { kind, «namespace» := some here, name } := by
  simp [Target.ofMetadata, Metadata.anyName, placed, named]

/-- Two infrastructure machines with the same target are the same. -/
theorem eq_of_target {content : Content} {m m' : InfraMachine}
    (member : m ∈ content.objects .infraMachine) (member' : m' ∈ content.objects .infraMachine)
    (same : Target.ofMetadata .infraMachine m.metadata =
      Target.ofMetadata .infraMachine m'.metadata) : m = m' := by
  obtain ⟨name, named, -⟩ := (content.storable .infraMachine m member).named
  obtain ⟨name', named', -⟩ := (content.storable .infraMachine m' member').named
  have placed : m.metadata.namespace = m'.metadata.namespace := congrArg Target.namespace same
  have called : m.metadata.anyName = m'.metadata.anyName := congrArg Target.name same
  refine eq_of_key member member' placed ?_
  simp only [Metadata.anyName, named, named', Option.orElse_some, Option.getD_some] at called
  rw [named, named', called]

/-- A change of a machine is mapped to the infrastructure machine that it refers to. -/
theorem mem_targets_machine {machine : ClusterApi.Machine} {known : List Metadata}
    (placed : machine.metadata.namespace = some here) (placed' : m.metadata.namespace = some here)
    (named' : m.metadata.name = some name) :
    Target.ofMetadata .infraMachine m.metadata ∈ Watch.targets known .machine machine ↔
      Concerns .machine machine m.metadata := by
  rw [ofMetadata_eq placed' named', Concerns, named']
  change _ ∈ (Watch.targetOfMachine machine).toList ↔ _
  unfold Watch.targetOfMachine
  rw [placed]
  cases machine.infrastructureName? InfraMachine.type.kind <;> simp [eq_comm]

/-- A change of a cluster is mapped to the infrastructure machines with its name as a label. -/
theorem mem_targets_cluster {content : Content} {cluster : ClusterApi.Cluster}
    (placed : cluster.metadata.namespace = some here)
    (named : cluster.metadata.name = some other)
    (stored : content.get? .infraMachine here name = some m) :
    Target.ofMetadata .infraMachine m.metadata ∈ Watch.targets content.machines .cluster cluster ↔
      Concerns .cluster cluster m.metadata := by
  have member := mem_of_get? stored
  have called : cluster.metadata.anyName = other := by simp [Metadata.anyName, named]
  have foreign : Target.ofMetadata .infraMachine m.metadata ∉
      (Watch.targetOfCluster cluster).toList := by
    unfold Watch.targetOfCluster
    rw [placed]
    cases cluster.infrastructureName? InfraCluster.type.kind <;> simp [Target.ofMetadata]
  rw [Concerns, named]
  constructor
  · intro mapped
    have among := (List.mem_append.mp mapped).resolve_left foreign
    obtain ⟨metadata, chosen, same⟩ := List.mem_map.mp among
    obtain ⟨listed, belongs⟩ := List.mem_filter.mp chosen
    obtain ⟨m', member', rfl⟩ := List.mem_map.mp listed
    obtain rfl : m' = m := eq_of_target member' member same
    simp only [Watch.belongsTo, Bool.and_eq_true, decide_eq_true_eq, called] at belongs
    exact belongs.2
  · intro label
    apply List.mem_append_right
    refine List.mem_map_of_mem (List.mem_filter.mpr ⟨List.mem_map_of_mem member, ?_⟩)
    simp only [Watch.belongsTo, Bool.and_eq_true, decide_eq_true_eq, called]
    exact ⟨(namespace_of_get? stored).trans placed.symm, label⟩

/-- When a machine stops at an obstacle, its run waits. A change that clears the obstacle is mapped
to the machine exactly when it is one of a machine that refers to it, or of a cluster whose name it
carries as a label; so a machine that waits for the infrastructure of its cluster is not woken. When
no other obstacle is left and the machine is to be worked on, its run would not wait any more. -/
theorem woken_iff {before after : Content} {m : InfraMachine} {here name : String} {config : Config}
    {gzip : Gzip.Compressor} {obstacle : Obstacle} {kind : Kind} {«namespace» other : String}
    {o : kind.Object}
    (unrestricted : WatchScope.ofConfig config = {})
    (stored : before.get? .infraMachine here name = some m)
    (stops : before.StopsAt m here obstacle) (puts : before.Puts kind «namespace» other o after)
    (cleared : after.obstacle? m here ≠ some obstacle) :
    before.Waits (InfraMachine.run (some here) name config gzip) ∧
      (after.obstacle? m here = none → m.IsActive →
        ¬ after.Waits (InfraMachine.run (some here) name config gzip)) ∧
      (after.Wakes (.ofConfig config) kind o m.metadata ↔ Concerns kind o m.metadata) := by
  obtain ⟨foreign, rfl⟩ := puts.of_cleared fun same => cleared (same.trans stops.met)
  have kept : after.get? .infraMachine «namespace» name = some m :=
    (puts.others _ _ _ fun same => foreign (congrArg Prod.fst same).symm).trans stored
  have placed := namespace_of_get? puts.stored
  have named := name_of_get? puts.stored
  have covered : WatchScope.covers {} o.metadata = true := rfl
  refine ⟨stops.waits stored, fun clear active => not_waits kept stops.alive active clear, ?_⟩
  rw [Wakes, unrestricted, covered]
  cases kind with
  | infraMachine => exact absurd rfl foreign
  | infraCluster => simp [Watch.watched, Concerns]
  | machine =>
      rw [mem_targets_machine placed (namespace_of_get? kept) (name_of_get? kept)]
      simp [Watch.watched]
  | cluster =>
      rw [mem_targets_cluster placed named kept]
      simp [Watch.watched]

end Change

/-- A machine that carries the name of its cluster as a label. -/
def sampleWaiting : InfraMachine :=
  { InfraMachine.sampleMachine with
    metadata := { InfraMachine.sampleMachine.metadata with
      «namespace» := some "default"
      labels := some (.ofList [(ClusterApi.clusterNameLabel, "training")]) } }

/-- The owner of the machine, which refers to it. -/
def sampleReferring : ClusterApi.Machine where
  metadata := { InfraMachine.sampleOwner.metadata with
    name := some "gpu-0", «namespace» := some "default" }
  spec := { InfraMachine.sampleOwner.spec with
    infrastructureRef := some { kind := "DataCrunchMachine", name := "gpu-0" } }

/-- The cluster of the machine. -/
def sampleGrouping : ClusterApi.Cluster :=
  { InfraMachine.sampleCluster with
    metadata := { name := some "training", «namespace» := some "default" } }

/-- The infrastructure of the cluster. -/
def sampleServing : InfraCluster :=
  { InfraMachine.sampleInfraCluster with
    metadata := { name := some "training", «namespace» := some "default" } }

/-- The objects around the machine, with the infrastructure of its cluster or without it. -/
def sampleObject (served : Bool) : (kind : Kind) → Option kind.Object
  | .infraMachine => some sampleWaiting
  | .machine => some sampleReferring
  | .cluster => some sampleGrouping
  | .infraCluster => if served then some sampleServing else none

/-- A content of these objects. -/
def sampleContent (served : Bool) : Content :=
  .ofOptions (sampleObject served) (by
    rintro kind o member
    cases kind with
    | infraMachine =>
        obtain rfl := Option.some.inj member
        exact ⟨rfl, ⟨"gpu-0", rfl, by decide⟩, by decide⟩
    | machine =>
        obtain rfl := Option.some.inj member
        exact ⟨rfl, ⟨"gpu-0", rfl, by decide⟩, by decide⟩
    | cluster =>
        obtain rfl := Option.some.inj member
        exact ⟨rfl, ⟨"training", rfl, by decide⟩, by decide⟩
    | infraCluster =>
        cases served with
        | false => cases member
        | true =>
            obtain rfl := Option.some.inj member
            exact ⟨rfl, ⟨"training", rfl, by decide⟩, by decide⟩)

/-- The infrastructure of the cluster is created. -/
theorem sample_puts :
    (sampleContent false).Puts .infraCluster "default" "training" sampleServing
      (sampleContent true) where
  stored := rfl
  others kind «namespace» name differs := by
    cases kind with
    | infraCluster =>
        refine List.find?_eq_none.mpr ?_
        intro c member
        obtain rfl := List.mem_singleton.mp member
        simp only [Bool.and_eq_true, decide_eq_true_eq, not_and]
        intro placed named
        exact differs (by rw [← Option.some.inj placed, ← Option.some.inj named])
    | _ => rfl

/-- A machine waits for the infrastructure of its cluster. It is created, nothing is in the way any
more, and the machine is not woken. -/
theorem woken_iff_of_sample :
    (sampleContent false).StopsAt sampleWaiting "default" (.missing .infraCluster) ∧
      (sampleContent false).Waits (InfraMachine.run (some "default") "gpu-0" {} Gzip.encode) ∧
      ¬ (sampleContent true).Waits (InfraMachine.run (some "default") "gpu-0" {} Gzip.encode) ∧
      ¬ (sampleContent true).Wakes {} .infraCluster sampleServing sampleWaiting.metadata := by
  have stored :
      (sampleContent false).get? .infraMachine "default" "gpu-0" = some sampleWaiting := rfl
  have active : sampleWaiting.IsActive := ⟨rfl, rfl⟩
  have stops : (sampleContent false).StopsAt sampleWaiting "default" (.missing .infraCluster) :=
    ⟨rfl, rfl, fun _ => active⟩
  have clear : (sampleContent true).obstacle? sampleWaiting "default" = none := rfl
  have cleared : (sampleContent true).obstacle? sampleWaiting "default" ≠
      some (.missing .infraCluster) := by
    rw [clear]
    nofun
  have unrestricted : WatchScope.ofConfig {} = {} := rfl
  obtain ⟨waits, works, woken⟩ := woken_iff unrestricted stored stops sample_puts cleared
  exact ⟨stops, waits, works clear active, woken.mp⟩

end Content

end MachineProvider
