import MachineProvider.Cloud.Client

/-!
# Keeping clients

A connector keeps its clients, so that their tokens can be used again. It finds a client by a key
made of the client ID and the address, and gives it out as long as the credentials are the same;
other credentials with this key replace it. A client is known by a number, which its token belongs
to.
-/

namespace MachineProvider

/-- The clients that were set up, by their keys. -/
structure Connector where
  /-- For each key the client that was set up last, with its number. -/
  clients : Dictionary (Client × Nat) := .empty
  /-- The number of the next client. -/
  next : Nat := 0

namespace Connector

/-- The key of the client for some credentials. -/
def key (c : Credentials) : String :=
  c.clientId ++ "@" ++ c.baseUrl.getD Client.defaultBaseUrl

/-- Gives out the client for some credentials, with its number. -/
def connect (connector : Connector) (credentials : Credentials) :
    Except CloudError (Client × Nat) × Connector :=
  let known := (connector.clients.get? (key credentials)).filter (·.1.credentials = credentials)
  match known with
  | some found => (.ok found, connector)
  | none =>
    match Client.ofCredentials credentials with
    | .error e => (.error e, connector)
    | .ok client =>
      let entry := (client, connector.next)
      (.ok entry,
        { clients := connector.clients.insert (key credentials) entry, next := connector.next + 1 })

end Connector

end MachineProvider
