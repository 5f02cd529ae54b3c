import MachineProvider.Proofs.Credentials
import MachineProvider.Proofs.Dictionary

/-!
# What a connector gives out

Different credentials can have one key, since an `@` may be in a client ID and the usual address may
be written out. A connector is followed through its calls by the clients that it gave out
(`Connector.served`): under each key it keeps the one that it gave out last (`Connector.Tracks`).
`Connector.serves` says of every call after any others what it gives, and whose tokens it shares.
-/

namespace MachineProvider

namespace Client

/-- A client has the credentials that it is made with. -/
theorem eq_of_ofCredentials {c : Credentials} {client : Client}
    (h : ofCredentials c = .ok client) :
    client = { credentials := c, baseUrl := trimSlashes (c.baseUrl.getD defaultBaseUrl) } := by
  unfold ofCredentials at h
  split at h
  · cases h
  · exact (Except.ok.inj h).symm

end Client

namespace Connector

/-- A client that was given out, with the number that its token belongs to. -/
structure Served where
  credentials : Credentials
  client : Client
  number : Nat

/-- The connector after some calls, of which the last one is the first of the list. -/
def after : List Credentials → Connector
  | [] => {}
  | c :: earlier => ((after earlier).connect c).2

/-- What a call gives after some others. -/
def given (earlier : List Credentials) (c : Credentials) : Except CloudError (Client × Nat) :=
  ((after earlier).connect c).1

/-- The clients that were given out in some calls, the last one first. -/
def served : List Credentials → List Served
  | [] => []
  | c :: earlier =>
    match given earlier c with
    | .ok (client, number) => { credentials := c, client, number } :: served earlier
    | .error _ => served earlier

/-- The client that was given out last for a key. -/
def lastOf (done : List Served) (k : String) : Option Served :=
  done.find? fun s => key s.credentials = k

/-- What a call gives after some others. -/
structure Serves (earlier : List Credentials) (c : Credentials) : Prop where
  fails : (∃ e, given earlier c = .error e) ↔ c.clientId = "" ∨ c.clientSecret = ""
  unchanged : (∃ e, given earlier c = .error e) → after (c :: earlier) = after earlier
  /-- A client is made with the credentials of the call. -/
  built : ∀ client number, given earlier c = .ok (client, number) →
    client.credentials = c ∧
      client.baseUrl = Client.trimSlashes (c.baseUrl.getD Client.defaultBaseUrl)
  /-- It shares the token of the last client with this key exactly when that has these
  credentials. -/
  shared : ∀ client number, given earlier c = .ok (client, number) →
    ∀ last, lastOf (served earlier) (key c) = some last →
      (number = last.number ↔ last.credentials = c)
  /-- Otherwise it shares the token of no client. -/
  renewed : ∀ client number, given earlier c = .ok (client, number) →
    (∀ last, lastOf (served earlier) (key c) = some last → last.credentials ≠ c) →
      ∀ s ∈ served earlier, s.number ≠ number
  /-- Clients that share a token have the same credentials. -/
  apart : ∀ client number, given earlier c = .ok (client, number) →
    ∀ s ∈ served earlier, s.number = number → s.credentials = c

/-- How a connector answers a call, and what becomes of it. -/
inductive Connects (connector : Connector) (c : Credentials) :
    Except CloudError (Client × Nat) → Connector → Prop
  | known {entry : Client × Nat} (found : connector.clients.get? (key c) = some entry)
    (same : entry.1.credentials = c) : Connects connector c (.ok entry) connector
  | refused {e : CloudError} (fails : Client.ofCredentials c = .error e) :
    Connects connector c (.error e) connector
  | added {client : Client} (made : Client.ofCredentials c = .ok client)
    (other : ∀ entry, connector.clients.get? (key c) = some entry → entry.1.credentials ≠ c) :
    Connects connector c (.ok (client, connector.next))
      { clients := connector.clients.insert (key c) (client, connector.next)
        next := connector.next + 1 }

theorem connects_connect (connector : Connector) (c : Credentials) :
    Connects connector c (connector.connect c).1 (connector.connect c).2 := by
  unfold connect
  dsimp only
  split
  next entry known =>
    obtain ⟨found, same⟩ := Option.filter_eq_some_iff.mp known
    exact .known found (of_decide_eq_true same)
  next unknown =>
    have other : ∀ entry, connector.clients.get? (key c) = some entry →
        entry.1.credentials ≠ c := by
      intro entry found same
      rw [found, Option.filter_some_pos (by simp [same])] at unknown
      cases unknown
    split
    next fails => exact .refused fails
    next made => exact .added made other

theorem connects_after (earlier : List Credentials) (c : Credentials) :
    Connects (after earlier) c (given earlier c) (after (c :: earlier)) :=
  connects_connect (after earlier) c

/-- The clients that a connector has given out, and the ones that it keeps. -/
structure Tracks (connector : Connector) (done : List Served) : Prop where
  current : ∀ k, connector.clients.get? k = (lastOf done k).map fun s => (s.client, s.number)
  built : ∀ s ∈ done, Client.ofCredentials s.credentials = .ok s.client
  issued : ∀ s ∈ done, s.number < connector.next
  apart : ∀ s ∈ done, ∀ s' ∈ done, s.number = s'.number → s.credentials = s'.credentials

section Tracking

variable {connector : Connector} {done : List Served} {c : Credentials} {k : String} {s : Served}

theorem lastOf_cons :
    lastOf (s :: done) k = if key s.credentials = k then some s else lastOf done k := by
  unfold lastOf
  rw [List.find?_cons]
  by_cases same : key s.credentials = k <;> simp [same]

theorem mem_of_lastOf (h : lastOf done k = some s) : s ∈ done :=
  List.mem_of_find?_eq_some h

theorem tracks_empty : Tracks {} [] where
  current _ := rfl
  built := nofun
  issued := nofun
  apart := nofun

namespace Tracks

/-- A client that is kept is the last one that was given out for its key. -/
theorem exists_last (h : Tracks connector done) {entry : Client × Nat}
    (found : connector.clients.get? k = some entry) :
    ∃ last, lastOf done k = some last ∧ entry = (last.client, last.number) ∧
      entry.1.credentials = last.credentials := by
  rw [h.current, Option.map_eq_some_iff] at found
  obtain ⟨last, isLast, rfl⟩ := found
  refine ⟨last, isLast, rfl, ?_⟩
  rw [Client.eq_of_ofCredentials (h.built last (mem_of_lastOf isLast))]

/-- A client that is kept is given out again. -/
theorem cons_known (h : Tracks connector done) {last : Served}
    (isLast : lastOf done (key c) = some last) (same : last.credentials = c) :
    Tracks connector
      ({ credentials := c, client := last.client, number := last.number } :: done) := by
  subst same
  have known : last ∈ done := mem_of_lastOf isLast
  refine ⟨fun k => ?_, ?_, ?_, ?_⟩
  · rw [h.current, lastOf_cons]
    split
    next this => rw [← this, isLast]
    next => rfl
  · exact List.forall_mem_cons.mpr ⟨h.built last known, h.built⟩
  · exact List.forall_mem_cons.mpr ⟨h.issued last known, h.issued⟩
  · refine List.forall_mem_cons.mpr ⟨?_, fun s member => ?_⟩
    · exact List.forall_mem_cons.mpr ⟨fun _ => rfl, h.apart last known⟩
    · exact List.forall_mem_cons.mpr ⟨h.apart s member last known, h.apart s member⟩

/-- A client that is set up gets a number that no other one has. -/
theorem cons_added (h : Tracks connector done) {client : Client}
    (made : Client.ofCredentials c = .ok client) :
    Tracks
      { clients := connector.clients.insert (key c) (client, connector.next)
        next := connector.next + 1 }
      ({ credentials := c, client, number := connector.next } :: done) := by
  have fresh (s : Served) (member : s ∈ done) : s.number ≠ connector.next :=
    Nat.ne_of_lt (h.issued s member)
  refine ⟨fun k => ?_, ?_, ?_, ?_⟩
  · rw [lastOf_cons]
    split
    next this =>
      rw [← this, Dictionary.get?_insert]
      rfl
    next other => rw [Dictionary.get?_insert_of_ne _ _ _ (Ne.symm other), h.current]
  · exact List.forall_mem_cons.mpr ⟨made, h.built⟩
  · exact List.forall_mem_cons.mpr
      ⟨Nat.lt_succ_self _, fun s member => Nat.lt_succ_of_lt (h.issued s member)⟩
  · refine List.forall_mem_cons.mpr ⟨?_, fun s member => ?_⟩
    · exact List.forall_mem_cons.mpr
        ⟨fun _ => rfl, fun s member same => absurd same.symm (fresh s member)⟩
    · exact List.forall_mem_cons.mpr ⟨fun same => absurd same (fresh s member), h.apart s member⟩

end Tracks

theorem tracks_after (calls : List Credentials) : Tracks (after calls) (served calls) := by
  induction calls with
  | nil => exact tracks_empty
  | cons c earlier ih =>
      have connects := connects_after earlier c
      rw [served]
      generalize given earlier c = result, after (c :: earlier) = next at connects
      cases connects with
      | known found same =>
          obtain ⟨last, isLast, rfl, whose⟩ := ih.exists_last found
          exact ih.cons_known isLast (whose.symm.trans same)
      | refused fails => exact ih
      | added made other => exact ih.cons_added made

end Tracking

section Calls

variable {earlier : List Credentials} {c : Credentials} {client : Client} {number : Nat}

theorem served_of_given (h : given earlier c = .ok (client, number)) :
    served (c :: earlier) = { credentials := c, client, number } :: served earlier := by
  rw [served, h]

/-- What is given out is the last client with the key, if it has these credentials, and otherwise
one with the next number. -/
theorem given_cases (h : given earlier c = .ok (client, number)) :
    (∃ last, lastOf (served earlier) (key c) = some last ∧ last.credentials = c ∧
        number = last.number) ∨
      (∀ last, lastOf (served earlier) (key c) = some last → last.credentials ≠ c) ∧
        number = (after earlier).next := by
  have tracks := tracks_after earlier
  have connects := connects_after earlier c
  rw [h] at connects
  generalize after (c :: earlier) = next at connects
  cases connects with
  | known found same =>
      obtain ⟨last, isLast, entry, whose⟩ := tracks.exists_last found
      exact .inl ⟨last, isLast, whose.symm.trans same, congrArg Prod.snd entry⟩
  | added made other =>
      refine .inr ⟨fun last isLast same => ?_, rfl⟩
      have found : (after earlier).clients.get? (key c) = some (last.client, last.number) := by
        rw [tracks.current, isLast]
        rfl
      obtain ⟨last', isLast', -, whose⟩ := tracks.exists_last found
      cases isLast.symm.trans isLast'
      exact other _ found (whose.trans same)

theorem number_ne_next {s : Served} (member : s ∈ served earlier) :
    s.number ≠ (after earlier).next :=
  Nat.ne_of_lt ((tracks_after earlier).issued s member)

theorem ofCredentials_of_given (h : given earlier c = .ok (client, number)) :
    Client.ofCredentials c = .ok client := by
  have tracks := tracks_after (c :: earlier)
  rw [served_of_given h] at tracks
  exact tracks.built _ List.mem_cons_self

/-- A call fails when there is no ID or no secret, whatever clients are kept. -/
theorem exists_error_iff :
    (∃ e, given earlier c = .error e) ↔ c.clientId = "" ∨ c.clientSecret = "" := by
  have succeeds : (∃ entry, given earlier c = .ok entry) ↔ c.Suffice :=
    ⟨fun ⟨entry, h⟩ => Credentials.exists_ofCredentials.mp ⟨entry.1, ofCredentials_of_given h⟩,
      fun suffice => suffice.exists_connect _⟩
  have fails : (∃ e, given earlier c = .error e) ↔ ¬ ∃ entry, given earlier c = .ok entry := by
    cases given earlier c <;> simp
  rw [fails, succeeds, ← String.isEmpty_iff, ← String.isEmpty_iff, ← not_iff_not, not_not, not_or,
    Bool.not_eq_true, Bool.not_eq_true]
  exact ⟨fun h => ⟨h.clientId, h.clientSecret⟩, fun h => ⟨h.1, h.2⟩⟩

end Calls

/-- Every call of a connector, after any others, gives a client made with its own credentials, and
the client shares its token with clients of these credentials only. -/
theorem serves (earlier : List Credentials) (c : Credentials) : Serves earlier c where
  fails := exists_error_iff
  unchanged := by
    rintro ⟨e, h⟩
    have connects := connects_after earlier c
    rw [h] at connects
    generalize after (c :: earlier) = next at connects
    cases connects
    rfl
  built client number h := by
    rw [Client.eq_of_ofCredentials (ofCredentials_of_given h)]
    exact ⟨rfl, rfl⟩
  shared client number h last isLast := by
    rcases given_cases h with ⟨last', isLast', same, rfl⟩ | ⟨other, rfl⟩
    · cases isLast.symm.trans isLast'
      exact iff_of_true rfl same
    · exact iff_of_false (number_ne_next (mem_of_lastOf isLast)).symm (other last isLast)
  renewed client number h other s member := by
    rcases given_cases h with ⟨last, isLast, same, -⟩ | ⟨-, rfl⟩
    · exact absurd same (other last isLast)
    · exact number_ne_next member
  apart client number h s member same := by
    have tracks := tracks_after (c :: earlier)
    rw [served_of_given h] at tracks
    exact tracks.apart s (List.mem_cons_of_mem _ member) _ List.mem_cons_self same

/-- The usual address written out has the key of an address that is left open, and its client has
another token. -/
example :
    let usual : Credentials := { clientId := "id", clientSecret := "secret" }
    let written := { usual with baseUrl := some Client.defaultBaseUrl }
    (served [usual, usual, written, usual]).map (·.number) = [2, 2, 1, 0] := by
  decide

end Connector

end MachineProvider
