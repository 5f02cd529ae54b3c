import MachineProvider.Config.Basic
import MachineProvider.Controller.Kind

/-!
# What the controllers watch

There are two controllers, one for infrastructure clusters and one for infrastructure machines. Each
looks at an object of its own kind when that object changes, and also when an object changes that
the work depends on. `targetOfCluster`, `targetOfMachine` and `targetsAmong` say which objects
these are. A configuration may restrict everything to one namespace and to objects with a label.
-/

namespace MachineProvider

/-- An object that a controller is to look at. -/
structure Target where
  kind : Kind
  «namespace» : Option String
  name : String
  deriving DecidableEq, Repr, Inhabited

namespace Target

/-- The object itself as a target. -/
def ofMetadata (kind : Kind) (m : Metadata) : Target where
  kind
  «namespace» := m.namespace
  name := m.anyName

end Target

/-- The part of the objects that the controllers look at. -/
structure WatchScope where
  /-- The only namespace that is looked at. -/
  «namespace» : Option String := none
  /-- The only value of the watch filter label that is looked at. -/
  filter : Option String := none
  deriving DecidableEq, Repr, Inhabited

namespace WatchScope

/-- The scope of a configuration. -/
def ofConfig (config : Config) : WatchScope where
  «namespace» := config.watchNamespace
  filter := config.watchFilter

/-- The condition on labels as requests write it. -/
def selector? (s : WatchScope) : Option String :=
  s.filter.map fun value => ClusterApi.watchFilterLabel ++ "=" ++ value

/-- Whether an object is looked at. -/
def covers (s : WatchScope) (m : Metadata) : Bool :=
  s.namespace.all (m.namespace = some ·) &&
    s.filter.all (m.label? ClusterApi.watchFilterLabel = some ·)

end WatchScope

namespace Watch

/-- The kinds that the controller for the objects of a kind watches, its own first. -/
def watched : Kind → List Kind
  | .infraCluster => [.infraCluster, .cluster]
  | .infraMachine => [.infraMachine, .machine, .cluster]
  | _ => []

/-- The kinds that have a controller. -/
def controlled : List Kind := [.infraCluster, .infraMachine]

/-- The infrastructure cluster that a cluster refers to. -/
def targetOfCluster (c : ClusterApi.Cluster) : Option Target := do
  let «namespace» ← c.metadata.namespace
  let name ← c.infrastructureName? InfraCluster.type.kind
  return { kind := .infraCluster, «namespace» := some «namespace», name }

/-- The infrastructure machine that a machine refers to. -/
def targetOfMachine (m : ClusterApi.Machine) : Option Target := do
  let «namespace» ← m.metadata.namespace
  let name ← m.infrastructureName? InfraMachine.type.kind
  return { kind := .infraMachine, «namespace» := some «namespace», name }

/-- Whether an infrastructure machine belongs to a cluster, going by its namespace and label. -/
def belongsTo (machine : Metadata) (c : ClusterApi.Cluster) : Bool :=
  machine.namespace = c.metadata.namespace &&
    machine.label? ClusterApi.clusterNameLabel = some c.metadata.anyName

/-- Those of the known infrastructure machines that belong to a cluster. A cluster that becomes
ready in this way reaches every machine that waits for it. -/
def targetsAmong (known : List Metadata) (c : ClusterApi.Cluster) : List Target :=
  (known.filter (belongsTo · c)).map (.ofMetadata .infraMachine)

/-- The targets that a change of an object of some kind has, given the infrastructure machines that
are known. -/
def targets (known : List Metadata) : (kind : Kind) → kind.Object → List Target
  | .infraCluster, c => [.ofMetadata .infraCluster c.metadata]
  | .infraMachine, m => [.ofMetadata .infraMachine m.metadata]
  | .machine, m => (targetOfMachine m).toList
  | .cluster, c => (targetOfCluster c).toList ++ targetsAmong known c

end Watch

end MachineProvider
