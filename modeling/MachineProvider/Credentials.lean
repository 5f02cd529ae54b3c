import MachineProvider.Cluster
import MachineProvider.Config.Basic
import MachineProvider.Error
import MachineProvider.Text.Blank
import MachineProvider.Text.Quoted
import MachineProvider.Text.Utf8

/-!
# Credentials

The credentials for the cloud come from a secret. `SecretLocation.ofCluster` says which secret
belongs to a cluster, and `Credentials.ofSecret` reads credentials from the data of a secret. Blank
characters around a value do not count, and a blank value counts as missing. The text that
describes credentials does not show the client secret.
-/

namespace MachineProvider

/-- What gives access to the cloud. -/
structure Credentials where
  clientId : String
  clientSecret : String
  /-- The address of the cloud, when it is not the usual one. -/
  baseUrl : Option String := none
  deriving DecidableEq, Repr, Inhabited

/-- The text that describes credentials without giving the client secret away. -/
def Credentials.describe (c : Credentials) : String :=
  let baseUrl := match c.baseUrl with
    | some url => "Some(" ++ Text.quoted url ++ ")"
    | none => "None"
  "Credentials \x7b client_id: " ++ Text.quoted c.clientId ++
    ", client_secret: \"<redacted>\", base_url: " ++ baseUrl ++ " \x7d"

/-- The data of a secret. -/
abbrev SecretData := Dictionary ByteArray

/-- Where a secret is. -/
structure SecretLocation where
  «namespace» : String
  name : String
  deriving DecidableEq, Repr, Inhabited

namespace SecretLocation

/-- The text that names a secret. -/
def display (l : SecretLocation) : String :=
  l.namespace ++ "/" ++ l.name

/-- The secret with the credentials of a cluster: the one that the cluster names, or else the
configured one. A namespace that is left open is the one of the cluster. -/
def ofCluster (cluster : InfraCluster) (config : Config) : SecretLocation :=
  let here := cluster.metadata.namespace.getD ""
  match cluster.spec.credentialsRef with
  | some reference => { «namespace» := reference.namespace.getD here, name := reference.name }
  | none =>
    { «namespace» := config.credentials.namespace.getD here, name := config.credentials.secretName }

end SecretLocation

namespace Credentials

/-- The key of the client ID. -/
def clientIdKey : String := "clientID"
/-- The key of the client secret. -/
def clientSecretKey : String := "clientSecret"
/-- The key of the address of the cloud. -/
def baseUrlKey : String := "baseURL"

/-- The value of a key without the blank characters around it; none when nothing is left. -/
def optionalKey (data : SecretData) (key : String) (location : SecretLocation) :
    Except Error (Option String) :=
  match data.get? key with
  | none => .ok none
  | some bytes =>
    match Text.ofBytes? bytes with
    | none =>
      .error (.credentials
        ("secret " ++ location.display ++ " key " ++ key ++ " is not valid UTF-8"))
    | some text =>
      let value := Text.trim text
      .ok (if value.isEmpty then none else some value)

/-- The value of a key that must have one. -/
def requiredKey (data : SecretData) (key : String) (location : SecretLocation) :
    Except Error String := do
  match ← optionalKey data key location with
  | some value => return value
  | none => throw (.credentials ("secret " ++ location.display ++ " is missing key " ++ key))

/-- The credentials in the data of a secret. -/
def ofSecret (data : SecretData) (location : SecretLocation) : Except Error Credentials := do
  let clientId ← requiredKey data clientIdKey location
  let clientSecret ← requiredKey data clientSecretKey location
  let baseUrl ← optionalKey data baseUrlKey location
  return { clientId, clientSecret, baseUrl }

end Credentials

end MachineProvider
