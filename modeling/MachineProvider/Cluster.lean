import MachineProvider.Condition
import MachineProvider.Object.Basic

/-!
# Infrastructure clusters

An infrastructure cluster describes the provider's side of a cluster of the Cluster API: its
region, the endpoint of its control plane, its network and where the credentials for the provider
are kept.
-/

namespace MachineProvider

/-- Where the API server of a workload cluster can be reached. -/
structure Endpoint where
  host : String := ""
  port : Int32 := 0
  deriving DecidableEq, Inhabited

namespace Endpoint

/-- Whether no endpoint has been set. -/
def isZero (e : Endpoint) : Bool :=
  e.host.isEmpty && e.port = 0

/-- Reads an endpoint. -/
def decode (json : Json) : Option Endpoint := do
  let fields ← json.record? ["host", "port"]
  return {
    host := ← fields.withDefault "host" Json.string? ""
    port := ← fields.withDefault "port" Json.int32? 0 }

/-- Writes an endpoint. -/
def encode (e : Endpoint) : Json :=
  .obj [("host", .str e.host), ("port", .int e.port.toInt)]

end Endpoint

/-- Options for the load balancer of the control plane. -/
structure LoadBalancerSpec where
  enabled : Option Bool := none
  type : String := ""
  healthCheckPath : String := ""
  deriving DecidableEq, Inhabited

namespace LoadBalancerSpec

/-- Reads load balancer options. -/
def decode (json : Json) : Option LoadBalancerSpec := do
  let fields ← json.record? ["enabled", "type", "healthCheckPath"]
  return {
    enabled := ← fields.optional "enabled" Json.bool?
    type := ← fields.withDefault "type" Json.string? ""
    healthCheckPath := ← fields.withDefault "healthCheckPath" Json.string? "" }

/-- Writes load balancer options. -/
def encode (s : LoadBalancerSpec) : Json :=
  Json.ofMembers [
    ("enabled", Json.ifSome .bool s.enabled),
    ("type", Json.ifText s.type),
    ("healthCheckPath", Json.ifText s.healthCheckPath)]

end LoadBalancerSpec

/-- A wanted private network. -/
structure VpcSpec where
  id : String := ""
  cidrBlock : String := ""
  tags : Dictionary String := .empty
  deriving DecidableEq, Inhabited

namespace VpcSpec

/-- Reads a wanted private network. -/
def decode (json : Json) : Option VpcSpec := do
  let fields ← json.record? ["id", "cidrBlock", "tags"]
  return {
    id := ← fields.withDefault "id" Json.string? ""
    cidrBlock := ← fields.withDefault "cidrBlock" Json.string? ""
    tags := ← fields.withDefault "tags" (Json.dictionary? Json.string?) .empty }

/-- Writes a wanted private network. -/
def encode (s : VpcSpec) : Json :=
  Json.ofMembers [
    ("id", Json.ifText s.id),
    ("cidrBlock", Json.ifText s.cidrBlock),
    ("tags", Json.ifEntries .str s.tags)]

end VpcSpec

/-- A wanted subnet. -/
structure SubnetSpec where
  id : String := ""
  cidrBlock : String := ""
  availabilityZone : String := ""
  isPublic : Bool := false
  tags : Dictionary String := .empty
  deriving DecidableEq, Inhabited

namespace SubnetSpec

/-- Reads a wanted subnet. -/
def decode (json : Json) : Option SubnetSpec := do
  let fields ← json.record? ["id", "cidrBlock", "availabilityZone", "isPublic", "tags"]
  return {
    id := ← fields.withDefault "id" Json.string? ""
    cidrBlock := ← fields.withDefault "cidrBlock" Json.string? ""
    availabilityZone := ← fields.withDefault "availabilityZone" Json.string? ""
    isPublic := ← fields.withDefault "isPublic" Json.bool? false
    tags := ← fields.withDefault "tags" (Json.dictionary? Json.string?) .empty }

/-- Writes a wanted subnet. -/
def encode (s : SubnetSpec) : Json :=
  Json.ofMembers [
    ("id", Json.ifText s.id),
    ("cidrBlock", Json.ifText s.cidrBlock),
    ("availabilityZone", Json.ifText s.availabilityZone),
    ("isPublic", some (.bool s.isPublic)),
    ("tags", Json.ifEntries .str s.tags)]

end SubnetSpec

/-- A wanted network. -/
structure NetworkSpec where
  vpc : Option VpcSpec := none
  subnets : List SubnetSpec := []
  deriving DecidableEq, Inhabited

namespace NetworkSpec

/-- Reads a wanted network. -/
def decode (json : Json) : Option NetworkSpec := do
  let fields ← json.record? ["vpc", "subnets"]
  return {
    vpc := ← fields.optional "vpc" VpcSpec.decode
    subnets := ← fields.withDefault "subnets" (Json.list? SubnetSpec.decode) [] }

/-- Writes a wanted network. -/
def encode (s : NetworkSpec) : Json :=
  Json.ofMembers [
    ("vpc", Json.ifSome VpcSpec.encode s.vpc),
    ("subnets", Json.ifItems SubnetSpec.encode s.subnets)]

end NetworkSpec

/-- The secret that holds the credentials for the provider. -/
structure SecretReference where
  name : String
  /-- The namespace of the secret; none stands for the namespace of the object that refers to it. -/
  «namespace» : Option String := none
  deriving DecidableEq, Inhabited

namespace SecretReference

/-- Reads a secret reference. -/
def decode (json : Json) : Option SecretReference := do
  let fields ← json.record? ["name", "namespace"]
  return {
    name := ← fields.required "name" Json.string?
    «namespace» := ← fields.optional "namespace" Json.string? }

/-- Writes a secret reference. -/
def encode (r : SecretReference) : Json :=
  Json.ofMembers [
    ("name", some (.str r.name)),
    ("namespace", Json.ifSome .str r.namespace)]

end SecretReference

/-- What infrastructure a cluster wants. -/
structure ClusterSpec where
  /-- The provider's code for the location. -/
  region : String := ""
  /-- Where the control plane is reached; the controller fills it in when it is left empty. -/
  controlPlaneEndpoint : Endpoint := {}
  controlPlaneLoadBalancer : Option LoadBalancerSpec := none
  network : Option NetworkSpec := none
  credentialsRef : Option SecretReference := none
  deriving DecidableEq, Inhabited

namespace ClusterSpec

/-- The names of the fields of a cluster's specification. -/
def fieldNames : List String :=
  ["region", "controlPlaneEndpoint", "controlPlaneLoadBalancer", "network", "credentialsRef"]

/-- Reads a cluster's specification. -/
def decode (json : Json) : Option ClusterSpec := do
  let fields ← json.record? fieldNames
  return {
    region := ← fields.withDefault "region" Json.string? ""
    controlPlaneEndpoint := ← fields.withDefault "controlPlaneEndpoint" Endpoint.decode {}
    controlPlaneLoadBalancer := ← fields.optional "controlPlaneLoadBalancer" LoadBalancerSpec.decode
    network := ← fields.optional "network" NetworkSpec.decode
    credentialsRef := ← fields.optional "credentialsRef" SecretReference.decode }

/-- Writes a cluster's specification. -/
def encode (s : ClusterSpec) : Json :=
  Json.ofMembers [
    ("region", Json.ifText s.region),
    ("controlPlaneEndpoint", some s.controlPlaneEndpoint.encode),
    ("controlPlaneLoadBalancer", Json.ifSome LoadBalancerSpec.encode s.controlPlaneLoadBalancer),
    ("network", Json.ifSome NetworkSpec.encode s.network),
    ("credentialsRef", Json.ifSome SecretReference.encode s.credentialsRef)]

end ClusterSpec

/-- A part of the region that can fail on its own. -/
structure FailureDomain where
  controlPlane : Bool := false
  attributes : Dictionary String := .empty
  deriving DecidableEq, Inhabited

namespace FailureDomain

/-- Reads a failure domain. -/
def decode (json : Json) : Option FailureDomain := do
  let fields ← json.record? ["controlPlane", "attributes"]
  return {
    controlPlane := ← fields.withDefault "controlPlane" Json.bool? false
    attributes := ← fields.withDefault "attributes" (Json.dictionary? Json.string?) .empty }

/-- Writes a failure domain. -/
def encode (d : FailureDomain) : Json :=
  Json.ofMembers [
    ("controlPlane", some (.bool d.controlPlane)),
    ("attributes", Json.ifEntries .str d.attributes)]

end FailureDomain

/-- An observed private network. -/
structure VpcStatus where
  id : String := ""
  cidrBlock : String := ""
  state : String := ""
  deriving DecidableEq, Inhabited

namespace VpcStatus

/-- Reads an observed private network. -/
def decode (json : Json) : Option VpcStatus := do
  let fields ← json.record? ["id", "cidrBlock", "state"]
  return {
    id := ← fields.withDefault "id" Json.string? ""
    cidrBlock := ← fields.withDefault "cidrBlock" Json.string? ""
    state := ← fields.withDefault "state" Json.string? "" }

/-- Writes an observed private network. -/
def encode (s : VpcStatus) : Json :=
  Json.ofMembers [
    ("id", Json.ifText s.id),
    ("cidrBlock", Json.ifText s.cidrBlock),
    ("state", Json.ifText s.state)]

end VpcStatus

/-- An observed subnet. -/
structure SubnetStatus where
  id : String := ""
  cidrBlock : String := ""
  availabilityZone : String := ""
  state : String := ""
  deriving DecidableEq, Inhabited

namespace SubnetStatus

/-- Reads an observed subnet. -/
def decode (json : Json) : Option SubnetStatus := do
  let fields ← json.record? ["id", "cidrBlock", "availabilityZone", "state"]
  return {
    id := ← fields.withDefault "id" Json.string? ""
    cidrBlock := ← fields.withDefault "cidrBlock" Json.string? ""
    availabilityZone := ← fields.withDefault "availabilityZone" Json.string? ""
    state := ← fields.withDefault "state" Json.string? "" }

/-- Writes an observed subnet. -/
def encode (s : SubnetStatus) : Json :=
  Json.ofMembers [
    ("id", Json.ifText s.id),
    ("cidrBlock", Json.ifText s.cidrBlock),
    ("availabilityZone", Json.ifText s.availabilityZone),
    ("state", Json.ifText s.state)]

end SubnetStatus

/-- An observed network. -/
structure NetworkStatus where
  vpc : Option VpcStatus := none
  subnets : List SubnetStatus := []
  deriving DecidableEq, Inhabited

namespace NetworkStatus

/-- Reads an observed network. -/
def decode (json : Json) : Option NetworkStatus := do
  let fields ← json.record? ["vpc", "subnets"]
  return {
    vpc := ← fields.optional "vpc" VpcStatus.decode
    subnets := ← fields.withDefault "subnets" (Json.list? SubnetStatus.decode) [] }

/-- Writes an observed network. -/
def encode (s : NetworkStatus) : Json :=
  Json.ofMembers [
    ("vpc", Json.ifSome VpcStatus.encode s.vpc),
    ("subnets", Json.ifItems SubnetStatus.encode s.subnets)]

end NetworkStatus

/-- An observed load balancer. -/
structure LoadBalancerStatus where
  id : String := ""
  dnsName : String := ""
  state : String := ""
  deriving DecidableEq, Inhabited

namespace LoadBalancerStatus

/-- Reads an observed load balancer. -/
def decode (json : Json) : Option LoadBalancerStatus := do
  let fields ← json.record? ["id", "dnsName", "state"]
  return {
    id := ← fields.withDefault "id" Json.string? ""
    dnsName := ← fields.withDefault "dnsName" Json.string? ""
    state := ← fields.withDefault "state" Json.string? "" }

/-- Writes an observed load balancer. -/
def encode (s : LoadBalancerStatus) : Json :=
  Json.ofMembers [
    ("id", Json.ifText s.id),
    ("dnsName", Json.ifText s.dnsName),
    ("state", Json.ifText s.state)]

end LoadBalancerStatus

/-- What was observed of a cluster's infrastructure. -/
structure ClusterStatus where
  ready : Bool := false
  conditions : List Condition := []
  failureDomains : Dictionary FailureDomain := .empty
  network : Option NetworkStatus := none
  loadBalancer : Option LoadBalancerStatus := none
  deriving DecidableEq, Inhabited

namespace ClusterStatus

/-- The names of the fields of a cluster's status. -/
def fieldNames : List String :=
  ["ready", "conditions", "failureDomains", "network", "loadBalancer"]

/-- Reads the status of a cluster. -/
def decode (json : Json) : Option ClusterStatus := do
  let fields ← json.record? fieldNames
  return {
    ready := ← fields.withDefault "ready" Json.bool? false
    conditions := ← fields.withDefault "conditions" (Json.list? Condition.decode) []
    failureDomains :=
      ← fields.withDefault "failureDomains" (Json.dictionary? FailureDomain.decode) .empty
    network := ← fields.optional "network" NetworkStatus.decode
    loadBalancer := ← fields.optional "loadBalancer" LoadBalancerStatus.decode }

/-- Writes the status of a cluster. -/
def encode (s : ClusterStatus) : Json :=
  Json.ofMembers [
    ("ready", some (.bool s.ready)),
    ("conditions", Json.ifItems Condition.encode s.conditions),
    ("failureDomains", Json.ifEntries FailureDomain.encode s.failureDomains),
    ("network", Json.ifSome NetworkStatus.encode s.network),
    ("loadBalancer", Json.ifSome LoadBalancerStatus.encode s.loadBalancer)]

end ClusterStatus

/-- An infrastructure cluster. -/
abbrev InfraCluster := Object ClusterSpec ClusterStatus

namespace InfraCluster

/-- The type of infrastructure clusters. -/
def type : ObjectType where
  apiVersion := "infrastructure.cluster.x-k8s.io/v1beta1"
  kind := "DataCrunchCluster"
  plural := "datacrunchclusters"

/-- The finalizer that guards what a cluster has in the cloud. -/
def finalizer : String := "datacrunchcluster.infrastructure.cluster.x-k8s.io"

/-- Reads an infrastructure cluster. -/
def decode : Json → Option InfraCluster := ObjectType.decode ClusterSpec.decode ClusterStatus.decode

/-- Writes an infrastructure cluster. -/
def encode : InfraCluster → Json := type.encode ClusterSpec.encode ClusterStatus.encode

/-- The status, a fresh one when there is none yet. -/
def statusOrNew (c : InfraCluster) : ClusterStatus :=
  c.status.getD {}

/-- The cluster with its status changed. -/
def mapStatus (c : InfraCluster) (change : ClusterStatus → ClusterStatus) : InfraCluster :=
  { c with status := some (change c.statusOrNew) }

/-- Whether the cluster is reported as ready. -/
def isReady (c : InfraCluster) : Bool :=
  c.statusOrNew.ready

/-- The ID of the recorded load balancer, unless it is empty. -/
def loadBalancerId? (c : InfraCluster) : Option String :=
  match c.statusOrNew.loadBalancer with
  | some balancer => if balancer.id.isEmpty then none else some balancer.id
  | none => none

end InfraCluster

end MachineProvider
