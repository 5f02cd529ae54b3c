import MachineProvider.Service

/-!
# A simulated cloud

A cloud that knows at most one instance and follows a script: how long each kind of request takes,
which fail, and what a new instance looks like. A request is logged when it arrives and has its
effect when it ends, so a request that nobody waits for has none.
-/

namespace MachineProvider.Simulation

/-- A kind of request to the cloud. -/
inductive CloudCall where
  | connect
  | create
  | get
  | start
  | delete
  | deleteLoadBalancer
  deriving DecidableEq, Repr, Inhabited

/-- What a new instance looks like. -/
structure InstanceTemplate where
  id : String := ""
  state : InstanceState := .unknown ""
  privateIp : Option String := none
  publicIp : Option String := none
  /-- The host name; none stands for the name in the request. -/
  name : Option String := none

/-- A cloud and its script. -/
structure Cloud where
  current : Option Instance := none
  template : InstanceTemplate := {}
  failure : CloudCall → Option CloudError := fun _ => none
  /-- How many seconds a request takes. -/
  seconds : CloudCall → Nat := fun _ => 0

/-- The instance that a template makes of a request. -/
def InstanceTemplate.fill (t : InstanceTemplate) (request : InstanceRequest) : Instance where
  id := t.id
  name := t.name.getD request.name
  state := t.state
  instanceType := request.instanceType
  image := request.image
  publicIp := t.publicIp
  privateIp := t.privateIp
  sshKey := request.sshKey
  createdAt := none

namespace Cloud

/-- The instance with an ID. -/
def find (c : Cloud) (operation id : String) : Except CloudError Instance :=
  match c.current with
  | some i => if i.id = id then .ok i else .error (.notFound operation ("instance " ++ id))
  | none => .error (.notFound operation ("instance " ++ id))

/-- What a request does when it ends, unless its kind is set to fail. -/
def perform {α : Type} (c : Cloud) (call : CloudCall) (effect : Except CloudError α × Cloud) :
    Except CloudError α × Cloud :=
  match c.failure call with
  | some e => (.error e, c)
  | none => effect

/-- Makes an instance. -/
def create (c : Cloud) (request : InstanceRequest) : Except CloudError Instance × Cloud :=
  let made := c.template.fill request
  c.perform .create (.ok made, { c with current := some made })

/-- Looks an instance up. -/
def get (c : Cloud) (id : String) : Except CloudError Instance × Cloud :=
  c.perform .get (c.find ("get instance " ++ id) id, c)

/-- Deletes an instance. -/
def delete (c : Cloud) (id : String) : Except CloudError Unit × Cloud :=
  c.perform .delete <|
    match c.find ("delete instance " ++ id) id with
    | .ok _ => (.ok (), { c with current := none })
    | .error e => (.error e, c)

end Cloud

end MachineProvider.Simulation
