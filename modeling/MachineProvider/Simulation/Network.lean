import MachineProvider.Cloud.Connector

/-!
# A network without connections

The operations of a client where no server can be reached: every exchange fails, and the tokens of
the clients stay where they are. What can be seen are the failures, and that nothing is sent.
-/

namespace MachineProvider.Simulation

/-- The tokens of the clients by their numbers, and the time. -/
structure Network where
  tokens : List (Nat × Token) := []
  wallClock : Timestamp

namespace Network

/-- Why an exchange fails. -/
def refused : String := "error sending request"

/-- Answers a question of an operation of the client with a number. -/
def answer (number : Nat) : (q : Client.Question) → Network → Client.Answer q × Network
  | .takeToken, n => (n.tokens.lookup number, n)
  | .putToken none, n => ((), n)
  | .putToken (some fresh), n => ((), { n with tokens := (number, fresh) :: n.tokens })
  | .now, n => (n.wallClock, n)
  | .exchange _, n => (.error refused, n)

/-- Runs an operation of the client with a number. -/
def run {α : Type} (n : Network) (number : Nat) (operation : Operation α) : Ended α × Network :=
  operation.run (answer number) n

end Network

end MachineProvider.Simulation
