import MachineProvider.Condition
import MachineProvider.Instance
import MachineProvider.Object.Basic

/-!
# Infrastructure machines

An infrastructure machine describes the one instance behind a machine of the Cluster API: what kind
of instance is wanted, the ID of the instance once there is one, and what was observed of it. A
failure that is recorded in the status is final.
-/

namespace MachineProvider

/-- Options for the root volume. -/
structure Volume where
  /-- The size in GB. -/
  size : Int64 := 0
  type : String := ""
  encrypted : Option Bool := none
  iops : Option Int64 := none
  deriving DecidableEq, Inhabited

namespace Volume

/-- Reads volume options. -/
def decode (json : Json) : Option Volume := do
  let fields ← json.record? ["size", "type", "encrypted", "iops"]
  return {
    size := ← fields.withDefault "size" Json.int64? 0
    type := ← fields.withDefault "type" Json.string? ""
    encrypted := ← fields.optional "encrypted" Json.bool?
    iops := ← fields.optional "iops" Json.int64? }

/-- Writes volume options. -/
def encode (v : Volume) : Json :=
  Json.ofMembers [
    ("size", some (.int v.size.toInt)),
    ("type", Json.ifText v.type),
    ("encrypted", Json.ifSome .bool v.encrypted),
    ("iops", Json.ifSome (fun n => .int n.toInt) v.iops)]

end Volume

/-- A network interface of the instance. -/
structure NetworkInterface where
  subnetId : String := ""
  deviceIndex : Option Int64 := none
  associatePublicIpAddress : Option Bool := none
  deleteOnTermination : Option Bool := none
  secondaryPrivateIpAddressCount : Option Int64 := none
  securityGroupIds : List String := []
  deriving DecidableEq, Inhabited

namespace NetworkInterface

/-- The names of the fields of a network interface. -/
def fieldNames : List String :=
  ["subnetID", "deviceIndex", "associatePublicIpAddress", "deleteOnTermination",
   "secondaryPrivateIpAddressCount", "securityGroupIDs"]

/-- Reads a network interface. -/
def decode (json : Json) : Option NetworkInterface := do
  let fields ← json.record? fieldNames
  return {
    subnetId := ← fields.withDefault "subnetID" Json.string? ""
    deviceIndex := ← fields.optional "deviceIndex" Json.int64?
    associatePublicIpAddress := ← fields.optional "associatePublicIpAddress" Json.bool?
    deleteOnTermination := ← fields.optional "deleteOnTermination" Json.bool?
    secondaryPrivateIpAddressCount := ← fields.optional "secondaryPrivateIpAddressCount" Json.int64?
    securityGroupIds := ← fields.withDefault "securityGroupIDs" (Json.list? Json.string?) [] }

/-- Writes a network interface. -/
def encode (n : NetworkInterface) : Json :=
  Json.ofMembers [
    ("subnetID", Json.ifText n.subnetId),
    ("deviceIndex", Json.ifSome (fun i => .int i.toInt) n.deviceIndex),
    ("associatePublicIpAddress", Json.ifSome .bool n.associatePublicIpAddress),
    ("deleteOnTermination", Json.ifSome .bool n.deleteOnTermination),
    ("secondaryPrivateIpAddressCount",
      Json.ifSome (fun i => .int i.toInt) n.secondaryPrivateIpAddressCount),
    ("securityGroupIDs", Json.ifItems .str n.securityGroupIds)]

end NetworkInterface

/-- Options for a spot instance. -/
structure SpotOptions where
  /-- The highest price per hour; none means the price on demand. -/
  maxPrice : Option String := none
  deriving DecidableEq, Inhabited

namespace SpotOptions

/-- Reads spot options. -/
def decode (json : Json) : Option SpotOptions := do
  let fields ← json.record? ["maxPrice"]
  return { maxPrice := ← fields.optional "maxPrice" Json.string? }

/-- Writes spot options. -/
def encode (s : SpotOptions) : Json :=
  Json.ofMembers [("maxPrice", Json.ifSome .str s.maxPrice)]

end SpotOptions

/-- What instance a machine wants. -/
structure MachineSpec where
  instanceType : String
  /-- The image; an empty one stands for the configured image. -/
  image : String := ""
  sshKeyName : String := ""
  /-- The provider ID of the instance, which the controller sets once. -/
  providerId : Option String := none
  additionalMetadata : Dictionary String := .empty
  additionalTags : Dictionary String := .empty
  rootVolume : Option Volume := none
  /-- False asks for the bootstrap data to be compressed before it is sent. -/
  uncompressedUserData : Option Bool := none
  networkInterfaces : List NetworkInterface := []
  publicIp : Option Bool := none
  spot : Option SpotOptions := none
  deriving DecidableEq

namespace MachineSpec

instance : Inhabited MachineSpec := ⟨{ instanceType := "" }⟩

/-- The names of the fields of a machine's specification. -/
def fieldNames : List String :=
  ["instanceType", "image", "sshKeyName", "providerID", "additionalMetadata", "additionalTags",
   "rootVolume", "uncompressedUserData", "networkInterfaces", "publicIP", "spot"]

/-- Reads a machine's specification. -/
def decode (json : Json) : Option MachineSpec := do
  let fields ← json.record? fieldNames
  return {
    instanceType := ← fields.required "instanceType" Json.string?
    image := ← fields.withDefault "image" Json.string? ""
    sshKeyName := ← fields.withDefault "sshKeyName" Json.string? ""
    providerId := ← fields.optional "providerID" Json.string?
    additionalMetadata :=
      ← fields.withDefault "additionalMetadata" (Json.dictionary? Json.string?) .empty
    additionalTags := ← fields.withDefault "additionalTags" (Json.dictionary? Json.string?) .empty
    rootVolume := ← fields.optional "rootVolume" Volume.decode
    uncompressedUserData := ← fields.optional "uncompressedUserData" Json.bool?
    networkInterfaces :=
      ← fields.withDefault "networkInterfaces" (Json.list? NetworkInterface.decode) []
    publicIp := ← fields.optional "publicIP" Json.bool?
    spot := ← fields.optional "spot" SpotOptions.decode }

/-- Writes a machine's specification. -/
def encode (s : MachineSpec) : Json :=
  Json.ofMembers [
    ("instanceType", some (.str s.instanceType)),
    ("image", Json.ifText s.image),
    ("sshKeyName", Json.ifText s.sshKeyName),
    ("providerID", Json.ifSome .str s.providerId),
    ("additionalMetadata", Json.ifEntries .str s.additionalMetadata),
    ("additionalTags", Json.ifEntries .str s.additionalTags),
    ("rootVolume", Json.ifSome Volume.encode s.rootVolume),
    ("uncompressedUserData", Json.ifSome .bool s.uncompressedUserData),
    ("networkInterfaces", Json.ifItems NetworkInterface.encode s.networkInterfaces),
    ("publicIP", Json.ifSome .bool s.publicIp),
    ("spot", Json.ifSome SpotOptions.encode s.spot)]

end MachineSpec

/-- What kind of address a machine address is. -/
inductive AddressType where
  | hostname
  | internalIp
  | externalIp
  | internalDns
  | externalDns
  deriving DecidableEq, Repr, Inhabited

namespace AddressType

/-- The written form of an address type. -/
def word : AddressType → String
  | hostname => "Hostname"
  | internalIp => "InternalIP"
  | externalIp => "ExternalIP"
  | internalDns => "InternalDNS"
  | externalDns => "ExternalDNS"

/-- The address type with a given written form. -/
def ofWord? (word : String) : Option AddressType :=
  if word = "Hostname" then some hostname
  else if word = "InternalIP" then some internalIp
  else if word = "ExternalIP" then some externalIp
  else if word = "InternalDNS" then some internalDns
  else if word = "ExternalDNS" then some externalDns
  else none

end AddressType

/-- An address under which a machine can be reached. -/
structure MachineAddress where
  type : AddressType
  address : String
  deriving DecidableEq, Repr, Inhabited

namespace MachineAddress

/-- Reads a machine address. -/
def decode (json : Json) : Option MachineAddress := do
  let fields ← json.record? ["type", "address"]
  return {
    type := ← fields.required "type" (Json.name? AddressType.ofWord?)
    address := ← fields.required "address" Json.string? }

/-- Writes a machine address. -/
def encode (a : MachineAddress) : Json :=
  .obj [("type", .str a.type.word), ("address", .str a.address)]

/-- The addresses of an instance: its host name, then its private and its public IP if they are
known. -/
def ofInstance (i : Instance) : List MachineAddress :=
  let ip (type : AddressType) (address : Option String) : List MachineAddress :=
    match address with
    | some address => if address.isEmpty then [] else [⟨type, address⟩]
    | none => []
  ⟨.hostname, i.name⟩ :: (ip .internalIp i.privateIp ++ ip .externalIp i.publicIp)

end MachineAddress

/-- What was observed of a machine. -/
structure MachineStatus where
  ready : Bool := false
  addresses : List MachineAddress := []
  /-- The state that was last reported for the instance. -/
  instanceState : Option InstanceState := none
  conditions : List Condition := []
  /-- The reason of a final failure. -/
  failureReason : Option String := none
  failureMessage : Option String := none
  interruptionReason : Option String := none
  deriving DecidableEq, Inhabited

namespace MachineStatus

/-- The names of the fields of a machine's status. -/
def fieldNames : List String :=
  ["ready", "addresses", "instanceState", "conditions", "failureReason", "failureMessage",
   "interruptionReason"]

/-- Reads the status of a machine. -/
def decode (json : Json) : Option MachineStatus := do
  let fields ← json.record? fieldNames
  return {
    ready := ← fields.withDefault "ready" Json.bool? false
    addresses := ← fields.withDefault "addresses" (Json.list? MachineAddress.decode) []
    instanceState := (← fields.optional "instanceState" Json.string?).map InstanceState.ofWord
    conditions := ← fields.withDefault "conditions" (Json.list? Condition.decode) []
    failureReason := ← fields.optional "failureReason" Json.string?
    failureMessage := ← fields.optional "failureMessage" Json.string?
    interruptionReason := ← fields.optional "interruptionReason" Json.string? }

/-- Writes the status of a machine. -/
def encode (s : MachineStatus) : Json :=
  Json.ofMembers [
    ("ready", some (.bool s.ready)),
    ("addresses", Json.ifItems MachineAddress.encode s.addresses),
    ("instanceState", Json.ifSome (fun state => .str state.word) s.instanceState),
    ("conditions", Json.ifItems Condition.encode s.conditions),
    ("failureReason", Json.ifSome .str s.failureReason),
    ("failureMessage", Json.ifSome .str s.failureMessage),
    ("interruptionReason", Json.ifSome .str s.interruptionReason)]

end MachineStatus

/-- An infrastructure machine. -/
abbrev InfraMachine := Object MachineSpec MachineStatus

namespace InfraMachine

/-- The type of infrastructure machines. -/
def type : ObjectType where
  apiVersion := "infrastructure.cluster.x-k8s.io/v1beta1"
  kind := "DataCrunchMachine"
  plural := "datacrunchmachines"

/-- The finalizer that guards the instance of a machine. -/
def finalizer : String := "datacrunchmachine.infrastructure.cluster.x-k8s.io"

/-- Reads an infrastructure machine. -/
def decode : Json → Option InfraMachine := ObjectType.decode MachineSpec.decode MachineStatus.decode

/-- Writes an infrastructure machine. -/
def encode : InfraMachine → Json := type.encode MachineSpec.encode MachineStatus.encode

/-- The status, a fresh one when there is none yet. -/
def statusOrNew (m : InfraMachine) : MachineStatus :=
  m.status.getD {}

/-- The machine with its status changed. -/
def mapStatus (m : InfraMachine) (change : MachineStatus → MachineStatus) : InfraMachine :=
  { m with status := some (change m.statusOrNew) }

/-- Whether a final failure has been recorded. -/
def isFailed (m : InfraMachine) : Bool :=
  m.statusOrNew.failureReason.isSome || m.statusOrNew.failureMessage.isSome

/-- Whether the machine is reported as ready. -/
def isReady (m : InfraMachine) : Bool :=
  m.statusOrNew.ready

/-- Records a provider ID unless there is one already. -/
def stampProviderId (m : InfraMachine) (providerId : String) : InfraMachine :=
  if m.spec.providerId.isSome then m else { m with spec.providerId := some providerId }

end InfraMachine

end MachineProvider
