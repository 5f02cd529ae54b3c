import MachineProvider.Object.Basic

/-!
# Events

An event tells the users of the API server what was done about an object. Events that agree in all
but their note belong to one series (`Event.SameSeries`).
-/

namespace MachineProvider

/-- How much attention an event asks for. -/
inductive EventType where
  | normal
  | warning
  deriving DecidableEq, Repr, Inhabited

/-- The written form of an event type. -/
def EventType.word : EventType → String
  | normal => "Normal"
  | warning => "Warning"

/-- What was done about an object. -/
structure Event where
  regarding : ObjectReference
  type : EventType
  reason : String
  action : String
  note : String
  deriving DecidableEq, Repr

namespace Event

/-- The reason of the event about a new instance. -/
def instanceCreated : String := "InstanceCreated"
/-- The reason of the event about a deleted instance. -/
def instanceDeleted : String := "InstanceDeleted"

/-- Whether an event continues the series of another. -/
def sameSeries (a b : Event) : Bool :=
  a.regarding = b.regarding && a.type = b.type && a.reason = b.reason && a.action = b.action

end Event

end MachineProvider
