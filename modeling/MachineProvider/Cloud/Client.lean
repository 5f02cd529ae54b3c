import MachineProvider.Cloud.Error
import MachineProvider.Cloud.Http
import MachineProvider.Cloud.Message
import MachineProvider.Cloud.Url
import MachineProvider.Json.Parser
import MachineProvider.Procedure
import MachineProvider.Text.Utf8

/-!
# The client of the cloud

Each operation is a procedure that sends one request with an access token; creating an instance
sends a second one that reads the instance back. The token is shared by all operations of a client:
an operation takes hold of it, authenticates if there is none or it is out of date, puts it back,
and only then sends its own request. An operation crashes (`Ended.crashed`) when a token is granted
for a time that cannot be represented.
-/

namespace MachineProvider

/-- An access token. -/
structure Token where
  value : String
  /-- When the token can no longer be used. -/
  expiresAt : Timestamp
  deriving DecidableEq, Repr

namespace Token

/-- The most seconds for which a token can be granted: milliseconds have 64 bits. -/
def maxLifetime : Int := Int64.maxValue.toInt / 1000

/-- When a token that was granted now expires; a lifetime below zero counts as zero. Nothing when
the lifetime or the date cannot be represented. -/
def expiry? (now : Timestamp) (expiresIn : Int64) : Option Timestamp :=
  let lifetime := max expiresIn.toInt 0
  if lifetime ≤ maxLifetime then now.addSeconds? lifetime else none

end Token

/-- How an operation ended. -/
inductive Ended (α : Type) where
  | crashed
  | finished (result : Except CloudError α)

/-- Applies a function to the value of an operation that succeeded. -/
def Ended.map {α β : Type} (f : α → β) : Ended α → Ended β
  | crashed => crashed
  | finished result => finished (result.map f)

/-- A client of the cloud. -/
structure Client where
  credentials : Credentials
  /-- The address of the cloud, without a slash at the end. -/
  baseUrl : String
  deriving DecidableEq, Repr

namespace Client

/-- The usual address of the cloud. -/
def defaultBaseUrl : String := "https://api.datacrunch.io/v1"

/-- A text without the slashes at its end. -/
def trimSlashes (text : String) : String :=
  String.ofList (text.toList.reverse.dropWhile (· = '/')).reverse

theorem toList_trimSlashes (text : String) :
    (trimSlashes text).toList = (text.toList.reverse.dropWhile (· = '/')).reverse :=
  String.toList_ofList

/-- A text is what is left of it and the slashes that were at its end. -/
theorem exists_trimSlashes_append (text : String) :
    ∃ count, text = trimSlashes text ++ String.ofList (List.replicate count '/') := by
  let slashes := text.toList.reverse.takeWhile (· = '/')
  have all : ∀ c ∈ slashes, c = '/' := fun c member =>
    of_decide_eq_true (List.all_eq_true.mp List.all_takeWhile c member)
  refine ⟨slashes.length, String.toList_inj.mp ?_⟩
  rw [String.toList_append, toList_trimSlashes, String.toList_ofList, ← List.reverse_replicate,
    ← List.eq_replicate_of_mem all, ← List.reverse_append, List.takeWhile_append_dropWhile,
    List.reverse_reverse]

/-- What is left of a text does not end in a slash. -/
theorem getLast?_trimSlashes (text : String) : (trimSlashes text).toList.getLast? ≠ some '/' := by
  rw [toList_trimSlashes, List.getLast?_reverse]
  intro slash
  have other := List.head?_dropWhile_not (· = '/') text.toList.reverse
  rw [slash] at other
  exact absurd other (by decide)

/-- A client with the given credentials. Its ID and its secret must not be empty. -/
def ofCredentials (credentials : Credentials) : Except CloudError Client :=
  if credentials.clientId.isEmpty || credentials.clientSecret.isEmpty then
    .error (.configuration "client ID and client secret are required")
  else
    .ok { credentials, baseUrl := trimSlashes (credentials.baseUrl.getD defaultBaseUrl) }

/-- A question of an operation. -/
inductive Question where
  /-- Waits until no other operation holds the token, takes hold of it and reads it. -/
  | takeToken
  /-- Puts the token back, or a new one in its place. -/
  | putToken (fresh : Option Token)
  /-- Reads the clock. -/
  | now
  | exchange (request : HttpRequest)

/-- The answer to a question. An exchange without a response says why there is none. -/
abbrev Answer : Question → Type
  | .takeToken => Option Token
  | .putToken _ => Unit
  | .now => Timestamp
  | .exchange _ => Except String HttpResponse

end Client

/-- An operation of the client. -/
abbrev Operation (α : Type) := Procedure Client.Question Client.Answer (Ended α)

namespace Operation

variable {α β : Type}

/-- The operation that only has a result. -/
def pure (result : Except CloudError α) : Operation α :=
  .done (.finished result)

/-- Goes on with the value of an operation that succeeded. -/
def andThen (operation : Operation α) (next : α → Operation β) : Operation β :=
  Procedure.bind operation fun
    | .crashed => .done .crashed
    | .finished (.error e) => .done (.finished (.error e))
    | .finished (.ok value) => next value

end Operation

namespace Client

variable {α : Type}

/-- Why an address cannot be used. -/
def badAddress : String := "builder error"

/-- Why a token cannot be sent. -/
def badToken : String := "builder error: failed to parse header value"

/-- Why a body could not be read. -/
def bodyCutOff : String := "error decoding response body"

/-- Why a body is not what was expected. -/
def badBody : String := "unexpected response body"

/-- A request to a path below the address of the cloud. -/
def requestTo (c : Client) (method : HttpMethod) (path : String) (bearer : Option String)
    (body : Option Json) : Except String HttpRequest :=
  match Url.parse? (c.baseUrl ++ path) with
  | none => .error badAddress
  | some url =>
    if bearer.all isHeaderValue then
      .ok { method, authority := url.authority, target := url.target, bearer, body }
    else .error badToken

/-- Sends a request, if it can be put together. -/
def exchange (operation : String) (request : Except String HttpRequest) :
    Operation HttpResponse :=
  match request with
  | .error detail => Operation.pure (.error (.transport operation detail))
  | .ok request =>
    .ask (.exchange request) fun
      | .ok response => Operation.pure (.ok response)
      | .error detail => Operation.pure (.error (.transport operation detail))

/-- The text of an error response, empty when it could not be read. -/
def errorText (response : HttpResponse) : String :=
  match response.body with
  | some bytes => Text.ofBytesLossy bytes
  | none => ""

/-- Reads the body of a response. -/
def readBody (operation : String) (read : Json → Option α) (response : HttpResponse) :
    Except CloudError α :=
  match response.body with
  | none => .error (.transport operation bodyCutOff)
  | some bytes =>
    match Json.parse? (Text.ofBytesLossy bytes) >>= read with
    | some value => .ok value
    | none => .error (.malformed operation badBody)

/-- What is made of the response to a request for a resource. -/
def received (operation resource : String) (response : HttpResponse)
    (success : Except CloudError α) : Except CloudError α :=
  if response.isSuccess then success
  else if response.status = 404 then .error (.notFound operation resource)
  else .error (.api operation response.status (errorText response))

/-- The operation that asks for a token, as failures name it. -/
def authentication : String := "authenticate"

/-- What is made of the response to the request for a token. -/
def granted (response : HttpResponse) : Except CloudError Message.TokenGrant :=
  if response.isSuccess then readBody authentication Message.tokenGrant? response
  else .error (.authentication authentication response.status (errorText response))

/-- Asks for a new token while no other operation holds it, and puts it back. -/
def authenticate (c : Client) : Operation String :=
  let request := c.requestTo .post "/oauth/token" none (some (Message.tokenRequest c.credentials))
  let keep (result : Ended String) : Operation String :=
    .ask (.putToken none) fun () => .done result
  Procedure.bind (exchange authentication request) fun
    | .crashed => keep .crashed
    | .finished (.error e) => keep (.finished (.error e))
    | .finished (.ok response) =>
      match granted response with
      | .error e => keep (.finished (.error e))
      | .ok grant =>
        .ask .now fun now =>
          match Token.expiry? now grant.expiresIn with
          | none => keep .crashed
          | some expiresAt =>
            .ask (.putToken (some { value := grant.accessToken, expiresAt })) fun () =>
              Operation.pure (.ok grant.accessToken)

/-- The value of a token that can be used: the shared one as long as it is not out of date, and
otherwise a new one. -/
def bearer (c : Client) : Operation String :=
  .ask .takeToken fun
    | none => c.authenticate
    | some token =>
      if token.value.isEmpty then c.authenticate
      else
        .ask .now fun now =>
          if now.isBefore token.expiresAt then
            .ask (.putToken none) fun () => Operation.pure (.ok token.value)
          else c.authenticate

/-- Sends a request with a token. -/
def send (c : Client) (operation : String) (method : HttpMethod) (path : String)
    (body : Option Json) : Operation HttpResponse :=
  c.bearer.andThen fun token => exchange operation (c.requestTo method path (some token) body)

/-- Sends a request and reads the body of the response. -/
def fetch (c : Client) (operation resource : String) (method : HttpMethod) (path : String)
    (body : Option Json) (read : Json → Option α) : Operation α :=
  (c.send operation method path body).andThen fun response =>
    Operation.pure (received operation resource response (readBody operation read response))

/-- Sends a request whose response has no body that matters. -/
def perform (c : Client) (operation resource : String) (method : HttpMethod) (path : String) :
    Operation Unit :=
  (c.send operation method path none).andThen fun response =>
    Operation.pure (received operation resource response (.ok ()))

/-- Looks an instance up. -/
def getInstance (c : Client) (id : String) : Operation Instance :=
  c.fetch ("get instance " ++ id) ("instance " ++ id) .get ("/instances/" ++ id) none
    Message.instance?

/-- What is known of a new instance that cannot be read back. -/
def provisioning (r : InstanceRequest) (id : String) : Instance where
  id
  name := r.name
  state := .pending
  instanceType := r.instanceType
  image := r.image
  publicIp := none
  privateIp := none
  sshKey := r.sshKey
  createdAt := none

/-- Creates an instance and reads it back. Once the cloud has given the instance an ID, the
operation succeeds, whatever becomes of the second request. -/
def createInstance (c : Client) (r : InstanceRequest) : Operation Instance :=
  let created := c.fetch ("create instance " ++ r.name) "instances" .post "/instances"
    (some (Message.createInstance r)) Message.createdId?
  created.andThen fun id =>
    Procedure.bind (c.getInstance id) fun
      | .crashed => .done .crashed
      | .finished (.ok found) => Operation.pure (.ok found)
      | .finished (.error _) => Operation.pure (.ok (provisioning r id))

/-- Deletes an instance. -/
def deleteInstance (c : Client) (id : String) : Operation Unit :=
  c.perform ("delete instance " ++ id) ("instance " ++ id) .delete ("/instances/" ++ id)

/-- Starts an instance that was stopped. -/
def startInstance (c : Client) (id : String) : Operation Unit :=
  c.perform ("start instance " ++ id) ("instance " ++ id) .post ("/instances/" ++ id ++ "/start")

/-- Stops an instance. -/
def stopInstance (c : Client) (id : String) : Operation Unit :=
  c.perform ("stop instance " ++ id) ("instance " ++ id) .post ("/instances/" ++ id ++ "/stop")

/-- Lists the images. -/
def listImages (c : Client) : Operation (List Image) :=
  c.fetch "list images" "images" .get "/images" none Message.images?

/-- Looks an image up. -/
def getImage (c : Client) (id : String) : Operation Image :=
  c.fetch ("get image " ++ id) ("image " ++ id) .get ("/images/" ++ id) none Message.image?

/-- Lists the registered SSH keys. -/
def listSshKeys (c : Client) : Operation (List SshKey) :=
  c.fetch "list SSH keys" "ssh-keys" .get "/ssh-keys" none Message.sshKeys?

/-- Registers an SSH key. -/
def createSshKey (c : Client) (name publicKey : String) : Operation SshKey :=
  c.fetch ("create SSH key " ++ name) "ssh-keys" .post "/ssh-keys"
    (some (Message.createSshKey name publicKey)) Message.sshKey?

/-- Removes an SSH key. -/
def deleteSshKey (c : Client) (id : String) : Operation Unit :=
  c.perform ("delete SSH key " ++ id) ("SSH key " ++ id) .delete ("/ssh-keys/" ++ id)

/-- An operation that the provider does not offer. -/
def unimplemented (what : String) : Operation α :=
  Operation.pure (.error (.unimplemented what))

/-- Creates a load balancer. -/
def createLoadBalancer (_ : Client) : Operation Unit := unimplemented "load balancer creation"

/-- Looks a load balancer up. -/
def getLoadBalancer (_ : Client) (_ : String) : Operation Unit :=
  unimplemented "load balancer retrieval"

/-- Deletes a load balancer. -/
def deleteLoadBalancer (_ : Client) (_ : String) : Operation Unit :=
  unimplemented "load balancer deletion"

/-- Changes the targets of a load balancer. -/
def updateLoadBalancerTargets (_ : Client) (_ : String) : Operation Unit :=
  unimplemented "load balancer target update"

end Client

end MachineProvider
