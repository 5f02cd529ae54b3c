import MachineProvider.Credentials
import MachineProvider.Instance

/-!
# The bodies of messages

How instances, images, SSH keys and access tokens are written in the bodies of requests and
responses. Of a response only the fields that are always there are required. Texts that are empty
count as missing, and a time that cannot be read counts as missing too.
-/

namespace MachineProvider.Message

/-- The request for an access token. -/
def tokenRequest (c : Credentials) : Json :=
  .obj [
    ("grant_type", .str "client_credentials"),
    ("client_id", .str c.clientId),
    ("client_secret", .str c.clientSecret)]

/-- An access token that was granted. -/
structure TokenGrant where
  accessToken : String
  tokenType : Option String
  /-- For how many seconds the token can be used. -/
  expiresIn : Int64
  deriving DecidableEq

/-- Reads the grant of an access token. -/
def tokenGrant? (json : Json) : Option TokenGrant := do
  let fields ← json.record? ["access_token", "token_type", "expires_in"]
  return {
    accessToken := ← fields.required "access_token" Json.string?
    tokenType := ← fields.optional "token_type" Json.string?
    expiresIn := ← fields.required "expires_in" Json.int64? }

/-- The options of a root volume. -/
def volume (v : VolumeRequest) : Json :=
  Json.ofMembers [
    ("size", Json.ifSome (fun n => .int n.toInt) v.sizeGb),
    ("type", Json.ifSome .str v.volumeType)]

/-- The request for a new instance. A bid makes it a spot instance. -/
def createInstance (r : InstanceRequest) : Json :=
  Json.ofMembers [
    ("hostname", some (.str r.name)),
    ("instance_type", some (.str r.instanceType)),
    ("image", some (.str r.image)),
    ("ssh_key", Json.ifSome .str r.sshKey),
    ("user_data", Json.ifSome .str r.userData),
    ("location_code", Json.ifSome .str r.location),
    ("metadata", Json.ifEntries .str r.metadata),
    ("tags", Json.ifEntries .str r.tags),
    ("public_ip", some (.bool r.publicIp)),
    ("is_spot", some (.bool r.spotMaxPrice.isSome)),
    ("spot_max_price", Json.ifSome .str r.spotMaxPrice),
    ("os_volume", Json.ifSome volume r.osVolume)]

/-- Reads the ID of a new instance. -/
def createdId? (json : Json) : Option String := do
  let fields ← json.record? ["id"]
  fields.required "id" Json.string?

/-- A text, none when it is missing or empty. -/
def present (text : Option String) : Option String :=
  text.filter (!·.isEmpty)

/-- Reads an instance. -/
def instance? (json : Json) : Option Instance := do
  let fields ← json.record?
    ["id", "hostname", "status", "instance_type", "image", "public_ip", "private_ip", "ssh_key",
     "created_at"]
  return {
    id := ← fields.required "id" Json.string?
    name := ← fields.required "hostname" Json.string?
    state := .ofWord (← fields.required "status" Json.string?)
    instanceType := (← fields.optional "instance_type" Json.string?).getD ""
    image := (← fields.optional "image" Json.string?).getD ""
    publicIp := present (← fields.optional "public_ip" Json.string?)
    privateIp := present (← fields.optional "private_ip" Json.string?)
    sshKey := present (← fields.optional "ssh_key" Json.string?)
    createdAt := (← fields.optional "created_at" Json.string?) >>= Timestamp.parse? }

/-- Reads an image. -/
def image? (json : Json) : Option Image := do
  let fields ← json.record? ["id", "name", "description", "os_type", "created_at"]
  return {
    id := ← fields.required "id" Json.string?
    name := ← fields.required "name" Json.string?
    description := present (← fields.optional "description" Json.string?)
    osType := present (← fields.optional "os_type" Json.string?)
    createdAt := (← fields.optional "created_at" Json.string?) >>= Timestamp.parse? }

/-- Reads a list of images. -/
def images? (json : Json) : Option (List Image) := do
  let fields ← json.record? ["images"]
  fields.withDefault "images" (Json.list? image?) []

/-- The request to register an SSH key. -/
def createSshKey (name publicKey : String) : Json :=
  .obj [("name", .str name), ("public_key", .str publicKey)]

/-- Reads an SSH key. -/
def sshKey? (json : Json) : Option SshKey := do
  let fields ← json.record? ["id", "name", "public_key", "created_at"]
  return {
    id := ← fields.required "id" Json.string?
    name := ← fields.required "name" Json.string?
    publicKey := ← fields.required "public_key" Json.string?
    createdAt := (← fields.optional "created_at" Json.string?) >>= Timestamp.parse? }

/-- Reads a list of SSH keys. -/
def sshKeys? (json : Json) : Option (List SshKey) := do
  let fields ← json.record? ["ssh_keys"]
  fields.withDefault "ssh_keys" (Json.list? sshKey?) []

end MachineProvider.Message
