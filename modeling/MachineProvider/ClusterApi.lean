import MachineProvider.Object.Basic

/-!
# The core of the Cluster API

The machines and clusters of the Cluster API own the infrastructure objects and say when these may
be worked on. Of their fields, only those are read that matter for this.
-/

namespace MachineProvider.ClusterApi

/-- The group of the core types. -/
def group : String := "cluster.x-k8s.io"

/-- The label that names the cluster of an object. -/
def clusterNameLabel : String := "cluster.x-k8s.io/cluster-name"

/-- The annotation that pauses the work on an object. -/
def pausedAnnotation : String := "cluster.x-k8s.io/paused"

/-- The label that the configured watch filter selects by. -/
def watchFilterLabel : String := "cluster.x-k8s.io/watch-filter"

/-- A reference to another object in the same API server. -/
structure Reference where
  apiVersion : String := ""
  kind : String := ""
  name : String := ""
  «namespace» : Option String := none
  deriving DecidableEq, Inhabited

namespace Reference

/-- Reads a reference. -/
def decode (json : Json) : Option Reference := do
  let fields ← json.record? ["apiVersion", "kind", "name", "namespace"]
  return {
    apiVersion := ← fields.withDefault "apiVersion" Json.string? ""
    kind := ← fields.withDefault "kind" Json.string? ""
    name := ← fields.withDefault "name" Json.string? ""
    «namespace» := ← fields.optional "namespace" Json.string? }

/-- Writes a reference. -/
def encode (r : Reference) : Json :=
  Json.ofMembers [
    ("apiVersion", some (.str r.apiVersion)),
    ("kind", some (.str r.kind)),
    ("name", some (.str r.name)),
    ("namespace", Json.ifSome .str r.namespace)]

/-- The name that is referred to, when the reference is of a kind and the name is not empty. -/
def nameOf? (reference : Option Reference) (kind : String) : Option String :=
  match reference with
  | some r => if r.kind = kind && !r.name.isEmpty then some r.name else none
  | none => none

end Reference

/-- What a cluster wants. -/
structure ClusterSpec where
  paused : Bool := false
  infrastructureRef : Option Reference := none
  deriving DecidableEq, Inhabited

/-- What was observed of a cluster. -/
structure ClusterStatus where
  infrastructureReady : Bool := false
  deriving DecidableEq, Inhabited

/-- A cluster. -/
abbrev Cluster := Object ClusterSpec ClusterStatus

namespace Cluster

/-- The type of clusters. -/
def type : ObjectType where
  apiVersion := "cluster.x-k8s.io/v1beta1"
  kind := "Cluster"
  plural := "clusters"

/-- Reads the specification of a cluster. -/
def decodeSpec (json : Json) : Option ClusterSpec := do
  let fields ← json.record? ["paused", "infrastructureRef"]
  return {
    paused := ← fields.withDefault "paused" Json.bool? false
    infrastructureRef := ← fields.optional "infrastructureRef" Reference.decode }

/-- Writes the specification of a cluster. -/
def encodeSpec (s : ClusterSpec) : Json :=
  Json.ofMembers [
    ("paused", some (.bool s.paused)),
    ("infrastructureRef", Json.ifSome Reference.encode s.infrastructureRef)]

/-- Reads the status of a cluster. -/
def decodeStatus (json : Json) : Option ClusterStatus := do
  let fields ← json.record? ["infrastructureReady"]
  return { infrastructureReady := ← fields.withDefault "infrastructureReady" Json.bool? false }

/-- Writes the status of a cluster. -/
def encodeStatus (s : ClusterStatus) : Json :=
  .obj [("infrastructureReady", .bool s.infrastructureReady)]

/-- Reads a cluster. -/
def decode : Json → Option Cluster := ObjectType.decode decodeSpec decodeStatus

/-- Writes a cluster. -/
def encode : Cluster → Json := type.encode encodeSpec encodeStatus

/-- Whether the infrastructure of the cluster is reported as ready. -/
def infrastructureReady (c : Cluster) : Bool :=
  match c.status with
  | some status => status.infrastructureReady
  | none => false

/-- The name of the infrastructure object, when it is of a kind. -/
def infrastructureName? (c : Cluster) (kind : String) : Option String :=
  Reference.nameOf? c.spec.infrastructureRef kind

end Cluster

/-- Where the bootstrap data of a machine is. -/
structure Bootstrap where
  /-- The secret with the bootstrap data, once it has been made. -/
  dataSecretName : Option String := none
  deriving DecidableEq, Inhabited

/-- What a machine wants. -/
structure MachineSpec where
  clusterName : String := ""
  bootstrap : Bootstrap := {}
  infrastructureRef : Option Reference := none
  deriving DecidableEq, Inhabited

/-- A machine. Its status is not read. -/
abbrev Machine := Object MachineSpec Empty

namespace Machine

/-- The type of machines. -/
def type : ObjectType where
  apiVersion := "cluster.x-k8s.io/v1beta1"
  kind := "Machine"
  plural := "machines"

/-- Reads where bootstrap data is. -/
def decodeBootstrap (json : Json) : Option Bootstrap := do
  let fields ← json.record? ["dataSecretName"]
  return { dataSecretName := ← fields.optional "dataSecretName" Json.string? }

/-- Writes where bootstrap data is. -/
def encodeBootstrap (b : Bootstrap) : Json :=
  Json.ofMembers [("dataSecretName", Json.ifSome .str b.dataSecretName)]

/-- Reads the specification of a machine. -/
def decodeSpec (json : Json) : Option MachineSpec := do
  let fields ← json.record? ["clusterName", "bootstrap", "infrastructureRef"]
  return {
    clusterName := ← fields.withDefault "clusterName" Json.string? ""
    bootstrap := ← fields.withDefault "bootstrap" decodeBootstrap {}
    infrastructureRef := ← fields.optional "infrastructureRef" Reference.decode }

/-- Writes the specification of a machine. -/
def encodeSpec (s : MachineSpec) : Json :=
  Json.ofMembers [
    ("clusterName", some (.str s.clusterName)),
    ("bootstrap", some (encodeBootstrap s.bootstrap)),
    ("infrastructureRef", Json.ifSome Reference.encode s.infrastructureRef)]

/-- Reads a machine. -/
def decode (json : Json) : Option Machine := do
  let fields ← json.record? ["metadata", "spec"]
  return {
    metadata := ← fields.required "metadata" Metadata.decode
    spec := ← fields.required "spec" decodeSpec }

/-- Writes a machine. -/
def encode : Machine → Json := type.encode encodeSpec nofun

/-- The name of the machine's cluster: what the label says, or else what the specification says,
unless that is empty. -/
def clusterName? (m : Machine) : Option String :=
  let name := (m.metadata.label? clusterNameLabel).getD m.spec.clusterName
  if name.isEmpty then none else some name

/-- The name of the infrastructure object, when it is of a kind. -/
def infrastructureName? (m : Machine) (kind : String) : Option String :=
  Reference.nameOf? m.spec.infrastructureRef kind

end Machine

/-- The group in an API version, which ends at the first slash; nothing when there is no slash. -/
def groupOf? (apiVersion : String) : Option String :=
  let chars := apiVersion.toList
  if chars.contains '/' then some (String.ofList (chars.takeWhile (· ≠ '/'))) else none

/-- The name of the first owner of a kind in the core group. -/
def ownerName? (metadata : Metadata) (kind : String) : Option String :=
  let owners := metadata.ownerReferences.getD []
  let isWanted (owner : OwnerReference) : Bool :=
    owner.kind = kind && groupOf? owner.apiVersion == some group
  (owners.find? isWanted).map (·.name)

/-- Whether an object carries the annotation that pauses it. -/
def hasPausedAnnotation (metadata : Metadata) : Bool :=
  metadata.isAnnotated pausedAnnotation

/-- Whether the work on an object is paused, through its cluster or by itself. -/
def isPaused (cluster : Cluster) (metadata : Metadata) : Bool :=
  cluster.spec.paused || hasPausedAnnotation cluster.metadata || hasPausedAnnotation metadata

end MachineProvider.ClusterApi
