import MachineProvider.Error
import MachineProvider.Json.Value

/-!
# Answers of the API server

An answer to a request is either an object or a failure. An object has to be understood before it
can be used, and for an object that may be missing a refusal with the right reason is an answer too.
-/

namespace MachineProvider

namespace ApiFailure

/-- The failure of a request for an object without a name. Such a request is not sent. -/
def emptyName : ApiFailure :=
  .unusable "Failed to build request: failed to validate request: A non-empty name is required"

/-- The failure of a request whose answer cannot be understood. -/
def undecodable : ApiFailure :=
  .unusable "Error deserializing response"

end ApiFailure

namespace ApiAnswer

/-- What the answer to a request means to one who expects an object of some type. -/
def understood {α : Type} (decode : Json → Option α) :
    Except ApiFailure Json → Except ApiFailure α
  | .error e => .error e
  | .ok json =>
    match decode json with
    | some value => .ok value
    | none => .error .undecodable

/-- What the answer to a read says about an object that may be missing: it is missing when the
reason of the refusal says so, whatever the code. -/
def present {α : Type} : Except ApiFailure α → Except Error (Option α)
  | .ok object => .ok (some object)
  | .error (.refused message reason code) =>
    if reason = "NotFound" then .ok none else .error (.api (.refused message reason code))
  | .error (.unusable detail) => .error (.api (.unusable detail))

/-- An object that is present has been read. -/
theorem eq_of_present {α : Type} {answer : Except ApiFailure α} {a : α}
    (h : present answer = .ok (some a)) : answer = .ok a := by
  cases answer with
  | ok b =>
      cases h
      rfl
  | error failure =>
      cases failure with
      | refused message reason code =>
          simp only [present] at h
          split at h <;> cases h
      | unusable detail => cases h

end ApiAnswer

end MachineProvider
