import MachineProvider.Json.Value

/-!
# Messages to and from the cloud

What a request to the cloud says and what comes back. The body of a response may have been cut off.
-/

namespace MachineProvider

/-- What a request asks to do with its resource. -/
inductive HttpMethod where
  | get
  | post
  | delete
  deriving DecidableEq, Repr, Inhabited

/-- The written form of a method. -/
def HttpMethod.word : HttpMethod → String
  | get => "GET"
  | post => "POST"
  | delete => "DELETE"

/-- A request to the cloud. -/
structure HttpRequest where
  method : HttpMethod
  /-- Host and port. -/
  authority : String
  /-- The path and the query as they are sent. -/
  target : String
  /-- The access token that is sent along. -/
  bearer : Option String := none
  body : Option Json := none

/-- A response from the cloud. -/
structure HttpResponse where
  status : Nat
  /-- The body; none when it was cut off. -/
  body : Option ByteArray

namespace HttpResponse

/-- Whether the status says that the request succeeded. -/
def isSuccess (r : HttpResponse) : Bool :=
  200 ≤ r.status && r.status ≤ 299

end HttpResponse

/-- Whether a text can be the value of a header: no control characters but the tab. -/
def isHeaderValue (text : String) : Bool :=
  text.toList.all fun c => c = '\t' || (0x20 ≤ c.toNat && c.toNat ≠ 0x7F)

end MachineProvider
