import MachineProvider.Credentials
import MachineProvider.Encoding.Base64
import MachineProvider.Object.Metadata

/-!
# Secrets of the API server

A secret keeps its data in base64. An answer to reading a secret that cannot be understood counts
as no usable answer.
-/

namespace MachineProvider.Secret

/-- The name of the resource in requests. -/
def plural : String := "secrets"

/-- Reads the bytes of one key. -/
def bytes? (json : Json) : Option ByteArray := do
  let bytes ← Base64.decode? (← json.string?)
  return bytes.toByteArray

/-- Reads the data of a secret; a secret without data has no keys. -/
def decode (json : Json) : Option SecretData := do
  let members ← json.members?
  if !json.isTextIfPresent "apiVersion" "v1" || !json.isTextIfPresent "kind" "Secret" then none
  else
    let fields ← (Json.obj members).record? ["data", "metadata"]
    let _ ← fields.optional "metadata" Metadata.decode
    return (← fields.optional "data" (Json.dictionary? bytes?)).getD .empty

end MachineProvider.Secret
