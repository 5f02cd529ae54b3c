/-!
# Failures of cloud operations

Each failure that comes from a request names the operation that was attempted. `kind` sorts the
failures into those that say that the resource does not exist, those that may pass when the
operation is repeated, and those that repeating does not help.
-/

namespace MachineProvider

/-- Why a cloud operation failed. -/
inductive CloudError where
  /-- No response was received, or its body could not be read to the end. -/
  | transport (operation : String) (detail : String)
  /-- The response has a status that reports an error. -/
  | api (operation : String) (status : Nat) (message : String)
  /-- The resource does not exist. -/
  | notFound (operation : String) (resource : String)
  /-- The request for an access token was rejected. -/
  | authentication (operation : String) (status : Nat) (message : String)
  /-- The body of the response is not what the operation expects. -/
  | malformed (operation : String) (detail : String)
  /-- The client cannot be set up as configured. -/
  | configuration (message : String)
  /-- The provider does not offer the operation. -/
  | unimplemented (what : String)
  deriving DecidableEq, Repr, Inhabited

namespace CloudError

/-- What a caller can expect from repeating a failed operation. -/
inductive Kind where
  | notFound
  | transient
  | permanent
  deriving DecidableEq, Repr

/-- The text that reports a failure. -/
def message : CloudError → String
  | transport operation detail => operation ++ ": HTTP error: " ++ detail
  | api operation status message =>
    operation ++ ": API error: " ++ toString status ++ " - " ++ message
  | notFound operation resource => operation ++ ": resource not found: " ++ resource
  | authentication operation status message =>
    operation ++ ": authentication failed: " ++ toString status ++ " - " ++ message
  | malformed operation detail => operation ++ ": serialization error: " ++ detail
  | configuration message => "Invalid configuration: " ++ message
  | unimplemented what => what ++ " is not implemented for DataCrunch"

/-- The kind of a failure. Of the error statuses, those from 500 on, 408 (timeout) and 429 (too many
requests) may pass. -/
def kind : CloudError → Kind
  | notFound .. => .notFound
  | transport .. => .transient
  | authentication .. => .transient
  | api _ status _ =>
    if status ≥ 500 || status = 408 || status = 429 then .transient else .permanent
  | malformed .. => .permanent
  | configuration _ => .permanent
  | unimplemented _ => .permanent

/-- Whether the failure says that the resource does not exist. -/
def isNotFound (e : CloudError) : Bool :=
  e.kind = .notFound

/-- Only one failure says that the resource does not exist. -/
theorem isNotFound_iff {e : CloudError} :
    e.isNotFound = true ↔ ∃ operation resource, e = notFound operation resource := by
  cases e <;> simp [isNotFound, kind]
  split <;> simp

end CloudError

end MachineProvider
