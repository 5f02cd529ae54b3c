import MachineProvider.ClusterApi
import MachineProvider.Encoding.Base64
import MachineProvider.Encoding.Gzip
import MachineProvider.Machine
import MachineProvider.ProviderId
import MachineProvider.Service

/-!
# Finding and launching the instance of a machine

`InfraMachine.findInstance` looks for the instance that the provider ID of a machine names, and
`InfraMachine.launch` creates one: it reads the bootstrap data, puts the request together and sends
it. An instance carries the names of its cluster and of its machine as tags, whatever other tags
are wanted. The compressor of the bootstrap data is a parameter. What is proved holds for any, or
for any that is lossless, and the program runs with `Gzip.encode`.
-/

namespace MachineProvider

/-- What the owners of a machine say about it. -/
structure MachineScope where
  clusterName : String
  /-- The name of the owning machine. -/
  machineName : String
  «namespace» : String
  /-- The location of the cluster. -/
  region : String
  infrastructureReady : Bool
  /-- The secret with the bootstrap data, once it has been made. -/
  bootstrapDataSecret : Option String
  credentials : SecretLocation
  deriving DecidableEq, Repr, Inhabited

/-- The tag that names the owning machine of an instance. -/
def machineNameTag : String := "cluster.x-k8s.io/machine-name"

/-- The key of the bootstrap data in its secret. -/
def bootstrapDataKey : String := "value"

/-- Bytes as user data: in base64, and compressed before if that is wanted. -/
def userData (gzip : Gzip.Compressor) (compress : Bool) (bytes : List UInt8) : String :=
  Base64.encode (if compress then gzip bytes else bytes)

/-- Reads bootstrap data from its secret and writes it as user data. -/
def bootstrapData (location : SecretLocation) (compress : Bool)
    (gzip : Gzip.Compressor := Gzip.encode) : Service (Except Error String) := do
  match ← Service.call (.readSecret .bootstrapData location) with
  | .error e => return .error e
  | .ok none =>
    return .error (.bootstrapData ("bootstrap data secret " ++ location.display ++ " not found"))
  | .ok (some data) =>
    match data.get? bootstrapDataKey with
    | none =>
      return .error (.bootstrapData
        ("secret " ++ location.display ++ " is missing key " ++ bootstrapDataKey))
    | some bytes => return .ok (userData gzip compress bytes.toList)

/-- The options of a root volume that are sent to the cloud: a size above zero and a type that is
not empty. -/
def VolumeRequest.ofVolume (volume : Volume) : VolumeRequest where
  sizeGb := if volume.size > 0 then some volume.size else none
  volumeType := if volume.type.isEmpty then none else some volume.type

/-- A text, none when it is empty. -/
def nonEmpty (text : String) : Option String :=
  if text.isEmpty then none else some text

/-- The request for the instance of a machine. -/
def InstanceRequest.ofMachine (machine : InfraMachine) (scope : MachineScope)
    (defaultImage userData : String) : InstanceRequest where
  name := machine.metadata.anyName
  instanceType := machine.spec.instanceType
  image := if machine.spec.image.isEmpty then defaultImage else machine.spec.image
  sshKey := nonEmpty machine.spec.sshKeyName
  userData := some userData
  location := nonEmpty scope.region
  metadata := machine.spec.additionalMetadata
  tags :=
    (machine.spec.additionalTags.insert ClusterApi.clusterNameLabel scope.clusterName).insert
      machineNameTag scope.machineName
  publicIp := machine.spec.publicIp.getD false
  spotMaxPrice := machine.spec.spot.bind (·.maxPrice)
  osVolume := machine.spec.rootVolume.map .ofVolume

namespace InfraMachine

/-- Looks for the instance of a machine. Without a provider ID there is none, and nothing is asked;
an instance that the cloud does not know is none either. -/
def findInstance (machine : InfraMachine) : Service (Except Error (Option Instance)) :=
  match machine.spec.providerId with
  | none => return .ok none
  | some raw =>
    match ProviderId.parse? raw with
    | none => return .error (.invalidProviderId raw)
    | some id => do
      match ← Service.call (.getInstance id) with
      | .ok found => return .ok (some found)
      | .error e => return if e.isCloudNotFound then .ok none else .error e

/-- Creates an instance for a machine. -/
def launch (machine : InfraMachine) (scope : MachineScope) (defaultImage : String)
    (gzip : Gzip.Compressor := Gzip.encode) : Service (Except Error Instance) := do
  match scope.bootstrapDataSecret with
  | none =>
    return .error (.bootstrapData "linked Machine's bootstrap.dataSecretName is not set")
  | some secret =>
    let compress := machine.spec.uncompressedUserData = some false
    match ← bootstrapData { «namespace» := scope.namespace, name := secret } compress gzip with
    | .error e => return .error e
    | .ok userData =>
      Service.call (.createInstance (.ofMachine machine scope defaultImage userData))

end InfraMachine

end MachineProvider
