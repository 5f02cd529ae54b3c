import MachineProvider.Cloud.Error
import MachineProvider.Delay
import MachineProvider.Text.Quoted

/-!
# Failures of the controllers

An `ApiFailure` is a failed request to the API server: it was refused with a status, or no usable
answer came back. An `Error` is why a reconcile failed. A failure may be wrapped to ask for a fixed
delay before the next attempt; the questions `isConflict` and `isCloudNotFound` look through that
wrapping.
-/

namespace MachineProvider

/-- Why a request to the API server failed. -/
inductive ApiFailure where
  /-- The server answered with an error status. -/
  | refused (message reason : String) (code : Nat)
  /-- There was no answer, or none that can be used. -/
  | unusable (detail : String)
  deriving DecidableEq, Repr, Inhabited

namespace ApiFailure

/-- The text that reports a failed request. -/
def message : ApiFailure → String
  | refused message reason code =>
    "ApiError: " ++ message ++ ": " ++ reason ++
      " (ErrorResponse \x7b status: \"Failure\", message: " ++ Text.quoted message ++
      ", reason: " ++ Text.quoted reason ++ ", code: " ++ toString code ++ " \x7d)"
  | unusable detail => detail

/-- Whether the server refused the request with the given code. -/
def hasCode (code : Nat) : ApiFailure → Bool
  | refused _ _ c => c = code
  | unusable _ => false

end ApiFailure

/-- Why a reconcile failed. -/
inductive Error where
  | api (failure : ApiFailure)
  | cloud (failure : CloudError)
  | credentials (message : String)
  | invalidProviderId (raw : String)
  | providerIdConflict (stored created : String)
  | bootstrapData (message : String)
  | missingObjectKey
  | configuration (message : String)
  | cancelled (operation : String)
  | deadlineExceeded (operation : String)
  | requeue (source : Error) (after : Delay)
  | malformed (detail : String)
  deriving DecidableEq, Repr, Inhabited

namespace Error

/-- The text that reports a failure. -/
def message : Error → String
  | api failure => "Kubernetes API error: " ++ failure.message
  | cloud failure => "DataCrunch API error: " ++ failure.message
  | credentials message => "Credentials error: " ++ message
  | invalidProviderId raw =>
    "Invalid provider ID " ++ Text.quoted raw ++ ": expected datacrunch://<instance-id>"
  | providerIdConflict stored created =>
    "providerID is already " ++ Text.quoted stored ++ ", cannot record created instance " ++
      Text.quoted created
  | bootstrapData message => "Bootstrap data error: " ++ message
  | missingObjectKey => "Missing object key"
  | configuration message => "Configuration error: " ++ message
  | cancelled operation => operation ++ " cancelled: controller is shutting down"
  | deadlineExceeded operation => operation ++ " exceeded the reconcile deadline"
  | requeue source after => source.message ++ " (retry in " ++ toString after.seconds ++ "s)"
  | malformed detail => "Serialization error: " ++ detail

/-- The fixed delay that the failure asks for before the next attempt. -/
def retryAfter? : Error → Option Delay
  | requeue _ after => some after
  | _ => none

/-- Whether a write was rejected because the object had changed since it was read. -/
def isConflict : Error → Bool
  | api failure => failure.hasCode 409
  | requeue source _ => source.isConflict
  | _ => false

/-- Whether the cloud reported that the resource does not exist. -/
def isCloudNotFound : Error → Bool
  | cloud failure => failure.isNotFound
  | requeue source _ => source.isCloudNotFound
  | _ => false

end Error

end MachineProvider
