import MachineProvider.Json.Parser
import MachineProvider.Simulation.Clock
import MachineProvider.Simulation.Cloud
import MachineProvider.Simulation.Server
import MachineProvider.Simulation.Services
import MachineProvider.Text.Digit

/-!
# Scripts of simulations

What a simulation begins with, and how its parts are set to behave, is written as JSON values. A
member that is missing or not of the right kind takes a neutral value: the empty text, no number,
no items.
-/

namespace MachineProvider.Simulation

namespace Script

/-- A member of a script, `null` when it is missing. -/
def field (j : Json) (name : String) : Json := (j.find? name).getD .null

/-- The text that a value is. -/
def textOf (j : Json) : String := j.asString?.getD ""

/-- A member that is a text. -/
def text (j : Json) (name : String) : String := textOf (field j name)

/-- A member that may be a text. -/
def text? (j : Json) (name : String) : Option String := (field j name).asString?

/-- Whether a member is true. -/
def isTrue (j : Json) (name : String) : Bool :=
  match field j name with
  | .bool b => b
  | _ => false

/-- The number that a value is, unless it is negative. -/
def natOf? : Json → Option Nat
  | .int n => if n < 0 then none else some n.toNat
  | _ => none

/-- A member that may be a number. -/
def nat? (j : Json) (name : String) : Option Nat := natOf? (field j name)

/-- The items of an array. -/
def items : Json → List Json
  | .arr xs => xs
  | _ => []

/-- The items of a member. -/
def listOf (j : Json) (name : String) : List Json := items (field j name)

/-- The members of an object. -/
def membersOf : Json → List (String × Json)
  | .obj ms => ms
  | _ => []

/-- A member that is not `null`. -/
def given? (j : Json) (name : String) : Option Json :=
  match field j name with
  | .null => none
  | value => some value

/-- The bytes that pairs of hexadecimal digits stand for. -/
def hexBytes : List Char → List UInt8
  | a :: b :: rest =>
    match Text.hexDigit? a, Text.hexDigit? b with
    | some x, some y => UInt8.ofNat (x * 16 + y) :: hexBytes rest
    | _, _ => hexBytes rest
  | _ => []

/-- Bytes, written as the text that they encode or as hexadecimal digits. -/
def bytesOf : Json → List UInt8
  | .str s => s.toUTF8.toList
  | other => hexBytes (text other "hex").toList

/-- A file, which is missing when the member with its bytes is. -/
def file? (j : Json) (name : String) : Option ByteArray :=
  (given? j name).map fun bytes => ⟨(bytesOf bytes).toArray⟩

/-- Texts by name. -/
def dictionaryOf (j : Json) : Dictionary String :=
  Dictionary.ofList ((membersOf j).map fun (k, v) => (k, textOf v))

end Script

open Script

/-- The detail of a failure to understand a text that a script makes up. -/
def scriptedDetail : String := "EOF while parsing an object at line 1 column 1"

/-- A failure of the cloud. -/
def cloudErrorOf? (j : Json) : Option CloudError :=
  let operation := text j "operation"
  match text j "type" with
  | "NotFound" => some (.notFound operation (text j "resource"))
  | "Api" => some (.api operation ((nat? j "status").getD 0) (text j "message"))
  | "Auth" => some (.authentication operation ((nat? j "status").getD 0) (text j "message"))
  | "Config" => some (.configuration (text j "message"))
  | "Unimplemented" => some (.unimplemented (text j "what"))
  | "Serialization" => some (.malformed operation scriptedDetail)
  | _ => none

/-- How deep failures can be nested. -/
def errorDepth : Nat := 128

/-- A failure of the controllers with at most so many others nested in it. -/
def nestedErrorOf? : Nat → Json → Option Error
  | 0, _ => none
  | depth + 1, j =>
    match text j "type" with
    | "Cloud" => (cloudErrorOf? (field j "source")).map .cloud
    | "Credentials" => some (.credentials (text j "message"))
    | "BootstrapData" => some (.bootstrapData (text j "message"))
    | "ConfigError" => some (.configuration (text j "message"))
    | "InvalidProviderId" => some (.invalidProviderId (text j "raw"))
    | "ProviderIdConflict" => some (.providerIdConflict (text j "stored") (text j "created"))
    | "MissingObjectKey" => some .missingObjectKey
    | "Cancelled" => some (.cancelled (text j "operation"))
    | "DeadlineExceeded" => some (.deadlineExceeded (text j "operation"))
    | "Serialization" => some (.malformed scriptedDetail)
    | "Requeue" =>
      (nestedErrorOf? depth (field j "source")).map fun e =>
        .requeue e ⟨(nat? j "after_ms").getD 0⟩
    | "KubeApi" =>
      some (.api (.refused (text j "message") (text j "reason") ((nat? j "code").getD 0)))
    | _ => none

/-- A failure of the controllers. -/
def errorOf? (j : Json) : Option Error := nestedErrorOf? errorDepth j

/-- An instance. -/
def instanceOf (j : Json) : Instance where
  id := text j "id"
  name := text j "name"
  state := .ofWord (text j "state")
  instanceType := text j "instance_type"
  image := text j "image_id"
  publicIp := text? j "public_ip"
  privateIp := text? j "private_ip"
  sshKey := text? j "ssh_key_name"
  createdAt := none

/-- The members that an instance is written with. -/
def instanceMembers (i : Instance) : List (String × Json) :=
  let optional : Option String → Json := fun s => (s.map .str).getD .null
  [("id", .str i.id), ("name", .str i.name), ("state", .str i.state.word),
    ("instance_type", .str i.instanceType), ("image_id", .str i.image),
    ("public_ip", optional i.publicIp), ("private_ip", optional i.privateIp),
    ("ssh_key_name", optional i.sshKey)]

/-- A request for a new instance. -/
def requestOf (j : Json) : InstanceRequest where
  name := text j "name"
  instanceType := text j "instance_type"
  image := text j "image_id"
  sshKey := text? j "ssh_key_name"
  userData := text? j "user_data"
  location := text? j "location"
  metadata := dictionaryOf (field j "metadata")
  tags := dictionaryOf (field j "tags")
  publicIp := isTrue j "public_ip"
  spotMaxPrice := text? j "spot_max_price"
  osVolume := (given? j "os_volume").map fun v =>
    { sizeGb := Json.int64? (field v "size_gb"), volumeType := text? v "volume_type" }

/-- The place of a secret. -/
def locationOf (j : Json) : SecretLocation where
  «namespace» := text j "namespace"
  name := text j "name"

/-- The place of a secret, written with a slash after the namespace. -/
def splitLocation (key : String) : SecretLocation :=
  let chars := key.toList
  { «namespace» := String.ofList (chars.takeWhile (· ≠ '/'))
    name := String.ofList ((chars.dropWhile (· ≠ '/')).drop 1) }

/-- Secrets by their places, each with its data or with the failure to read it. -/
def secretsOf? (j : Json) : Option Secrets :=
  (membersOf j).mapM fun (key, value) =>
    match value.find? "$error" with
    | some e => (errorOf? e).map fun e => (splitLocation key, .error e)
    | none =>
      let data := (membersOf value).map fun (k, v) => (k, (bytesOf v).toByteArray)
      some (splitLocation key, .ok (Dictionary.ofList data))

/-- The name of a kind of request to the cloud. -/
def CloudCall.name : CloudCall → String
  | connect => "connect"
  | create => "create"
  | get => "get"
  | start => "start"
  | delete => "delete"
  | deleteLoadBalancer => "delete_lb"

/-- A cloud and its script. -/
def cloudOf? (j : Json) : Option Cloud := do
  let failures ← (membersOf (field j "fail")).filterMapM fun (name, value) =>
    match value with
    | .null => some none
    | e => (cloudErrorOf? e).map fun e => some (name, e)
  let template := field j "create"
  return {
    current := (given? j "instance").map instanceOf
    template := {
      id := text template "id"
      state := .ofWord (text template "state")
      privateIp := text? template "private_ip"
      publicIp := text? template "public_ip"
      name := text? template "name" }
    failure := fun call => failures.lookup call.name
    seconds := fun call => (nat? (field j "delay") call.name).getD 0 }

/-- The script of a cloud with its instance as it is now. -/
def scriptOfCloud (j : Json) (c : Cloud) : Json :=
  j.set "instance" ((c.current.map fun i => .obj (instanceMembers i)).getD .null)

/-- How many seconds a guard lasts unless a script says otherwise. -/
def usualTimeout : Nat := 60

/-- A guard that starts when the simulation begins; nothing when its deadline cannot be
represented. -/
def guardOf? (j : Json) : Option Guard := do
  let started ← Guard.start? clockOrigin (.ofSeconds ((nat? j "timeout_s").getD usualTimeout))
  match nat? j "cancel_after_s" with
  | none => return started
  | some 0 => return { started with cancelled := true }
  | some n => return { started with cancelAt := some (clockOrigin + pause clockOrigin n) }

/-- A hook. -/
def hookOf (j : Json) : Hook where
  verb := text j "verb"
  plural := text j "resource"
  name := text? j "name"
  skip := (nat? j "skip").getD 0
  times := (nat? j "times").getD 1
  merge := given? j "merge"
  remove := isTrue j "remove"
  failure := (given? j "fail").map fun f =>
    if isTrue f "transport" then .unusable "ServiceError: connection reset"
    else .refused (text f "message") (text f "reason") ((nat? f "code").getD 0)

/-- An API server with its objects and hooks. -/
def serverOf (j : Json) : Server :=
  (listOf j "objects").foldl Server.put { hooks := (listOf j "hooks").map hookOf }

/-- What an object is stored under, going by its kind, namespace and name. -/
def objectKeyOf (j : Json) : ObjectKey where
  plural := pluralOf (text j "kind")
  «namespace» := text j "namespace"
  name := text j "name"

/-- What a step does to an API server, if that is what it changes. -/
def worldStep? (s : Server) (j : Json) : Option Server :=
  match text j "do" with
  | "put" => some (s.put (field j "object"))
  | "merge" => some (s.merge (objectKeyOf j) (field j "merge"))
  | "remove" => some (s.remove (objectKeyOf j))
  | "hook" => some { s with hooks := s.hooks ++ [hookOf (field j "hook")] }
  | _ => none

end MachineProvider.Simulation
