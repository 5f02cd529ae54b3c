import MachineProvider.Dictionary
import MachineProvider.Timestamp

/-!
# Instances

An instance is a compute machine as the provider reports it. Its state is one of six known words
or any other word, which is kept as it was reported. An `InstanceRequest` says how a new instance
is to be made.
-/

namespace MachineProvider

/-- The life cycle state that is reported for an instance. -/
inductive InstanceState where
  | pending
  | running
  | stopping
  | stopped
  | shuttingDown
  | terminated
  | unknown (word : String)
  deriving DecidableEq, Repr, Inhabited

namespace InstanceState

/-- The word that is reported for a state. -/
def word : InstanceState → String
  | pending => "pending"
  | running => "running"
  | stopping => "stopping"
  | stopped => "stopped"
  | shuttingDown => "shutting-down"
  | terminated => "terminated"
  | unknown word => word

/-- The state that a reported word stands for. -/
def ofWord (word : String) : InstanceState :=
  if word = "pending" then pending
  else if word = "running" then running
  else if word = "stopping" then stopping
  else if word = "stopped" then stopped
  else if word = "shutting-down" then shuttingDown
  else if word = "terminated" then terminated
  else unknown word

/-- No word is lost by reading it as a state. -/
@[simp] theorem word_ofWord (w : String) : (ofWord w).word = w := by
  unfold ofWord
  repeat' split
  all_goals simp_all [word]

end InstanceState

/-- An instance as the provider reports it. -/
structure Instance where
  id : String
  /-- The host name. -/
  name : String
  state : InstanceState
  instanceType : String
  /-- The image that the instance was booted from. -/
  image : String
  publicIp : Option String
  privateIp : Option String
  sshKey : Option String
  createdAt : Option Timestamp
  deriving DecidableEq, Repr, Inhabited

/-- Options for the root volume of a new instance. -/
structure VolumeRequest where
  sizeGb : Option Int64
  volumeType : Option String
  deriving DecidableEq, Inhabited

/-- How a new instance is to be made. -/
structure InstanceRequest where
  /-- The host name. -/
  name : String
  instanceType : String
  image : String
  sshKey : Option String
  /-- Data for the first boot, in base64. -/
  userData : Option String
  location : Option String
  metadata : Dictionary String
  tags : Dictionary String
  publicIp : Bool
  /-- The bid for a spot instance. -/
  spotMaxPrice : Option String
  osVolume : Option VolumeRequest
  deriving DecidableEq

/-- An operating system image. -/
structure Image where
  id : String
  name : String
  description : Option String
  osType : Option String
  createdAt : Option Timestamp
  deriving DecidableEq, Repr

/-- A registered SSH key. -/
structure SshKey where
  id : String
  name : String
  publicKey : String
  createdAt : Option Timestamp
  deriving DecidableEq, Repr

end MachineProvider
