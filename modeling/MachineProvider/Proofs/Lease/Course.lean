import MachineProvider.Lease.Election
import MachineProvider.Proofs.Discipline
import MachineProvider.Proofs.Lease.Decision

/-!
# How a round goes

A round asks three questions at most: what time it is, what the lease says, and whether it may be
written. `Elector.Goes` lists the rounds that there are, each with everything that was asked and
answered and with its result, and `Elector.goes_round` says that there are no others.
-/

namespace MachineProvider

open Procedure

namespace Election

/-- A question with its answer. -/
structure Exchange where
  question : Question
  answer : Answer question

namespace Exchange

/-- What the clock showed, when it was looked at. -/
def clock? : Exchange → Option Timestamp
  | ⟨.now, t⟩ => some t
  | _ => none

/-- The lease that was read. -/
def lease? : Exchange → Option Lease
  | ⟨.fetch .., .ok lease⟩ => some lease
  | _ => none

/-- The lease that was to be written over a version. -/
def written? : Exchange → Option Lease
  | ⟨.replace _ _ lease, _⟩ => some lease
  | _ => none

end Exchange

/-- Notes what is asked and answered, the last exchange first. -/
def transcript : Discipline Question Answer (List Exchange) where
  next heard q a := ⟨q, a⟩ :: heard
  may _ _ := True
  expects _ _ _ := True

/-- Answers a question in the same way whenever it is asked, and notes that. -/
def noting (answer : (q : Question) → Answer q) (q : Question) (heard : List Exchange) :
    Answer q × List Exchange :=
  (answer q, ⟨q, answer q⟩ :: heard)

/-- What holds of everything that may be noted holds of what is noted. -/
theorem follows_noting {α : Type} {post : α → List Exchange → Prop}
    {p : Procedure Question Answer α} (answer : (q : Question) → Answer q)
    (follows : p.Follows transcript post []) :
    post (p.run (noting answer) []).1 (p.run (noting answer) []).2 := by
  change post _ (id (p.run (noting answer) []).2)
  apply Follows.run (d := transcript)
  · exact follows
  · intro q heard
    trivial
  · intro q heard
    rfl

end Election

namespace Elector

open Election

variable (e : Elector)

/-- How a round goes: its result, and what was asked and answered, the last exchange first. -/
inductive Goes : Round → List Exchange → Prop
  /-- A lease without a name cannot be asked for. -/
  | unnamed {now : Timestamp} (unnamed : e.leaseName.isEmpty = true) :
    Goes (.failed (.api .emptyName)) [⟨.now, now⟩]
  /-- It cannot be found out what the lease says. -/
  | unread {now : Timestamp} {answer : Except ApiFailure Lease} {cause : Error}
    (unread : ApiAnswer.present answer = .error cause) :
    Goes (.failed cause) [⟨.fetch e.namespace e.leaseName, answer⟩, ⟨.now, now⟩]
  /-- There is no lease, and it is made. -/
  | creates {now : Timestamp} {answer : Except ApiFailure Lease} {reply : Except ApiFailure Unit}
    (missing : ApiAnswer.present answer = .ok none) :
    Goes (roundOfWrite reply)
      [⟨.create e.namespace e.leaseName (e.newLease now), reply⟩,
        ⟨.fetch e.namespace e.leaseName, answer⟩, ⟨.now, now⟩]
  /-- It cannot be found out when the lease ends. -/
  | crashes {now : Timestamp} {lease : Lease}
    (decided : Lease.decide lease.spec e.identity now = none) :
    Goes .crashed [⟨.fetch e.namespace e.leaseName, .ok lease⟩, ⟨.now, now⟩]
  /-- Somebody else holds the lease. -/
  | waits {now : Timestamp} {lease : Lease}
    (decided : Lease.decide lease.spec e.identity now = some .wait) :
    Goes .notHeld [⟨.fetch e.namespace e.leaseName, .ok lease⟩, ⟨.now, now⟩]
  /-- The lease is the elector's own and is renewed. -/
  | renews {now : Timestamp} {lease : Lease} {reply : Except ApiFailure Unit}
    (decided : Lease.decide lease.spec e.identity now = some .renew) :
    Goes (roundOfWrite reply)
      [⟨.replace e.namespace e.leaseName (renewed lease now), reply⟩,
        ⟨.fetch e.namespace e.leaseName, .ok lease⟩, ⟨.now, now⟩]
  /-- The lease is free and is taken. -/
  | takes {now : Timestamp} {lease : Lease} {transitions : Int32}
    {reply : Except ApiFailure Unit}
    (decided : Lease.decide lease.spec e.identity now = some (.takeOver transitions)) :
    Goes (roundOfWrite reply)
      [⟨.replace e.namespace e.leaseName (e.taken lease transitions now), reply⟩,
        ⟨.fetch e.namespace e.leaseName, .ok lease⟩, ⟨.now, now⟩]

variable {e}

/-- A lease that was read is dealt with in one of the ways that there are. -/
theorem goes_carryOut (now : Timestamp) (lease : Lease) :
    (e.carryOut lease now (Lease.decide lease.spec e.identity now)).Follows transcript e.Goes
      [⟨.fetch e.namespace e.leaseName, .ok lease⟩, ⟨.now, now⟩] := by
  cases decided : Lease.decide lease.spec e.identity now with
  | none => exact .crashes decided
  | some decision =>
      cases decision with
      | wait => exact .waits decided
      | renew =>
          refine ⟨trivial, ?_⟩
          intro reply _
          exact .renews decided
      | takeOver transitions =>
          refine ⟨trivial, ?_⟩
          intro reply _
          exact .takes decided

/-- Whatever is answered, a round goes in one of the ways that there are. -/
theorem goes_round : e.round.Follows transcript e.Goes [] := by
  refine ⟨trivial, ?_⟩
  intro now _
  dsimp only
  split
  next unnamed => exact .unnamed unnamed
  refine ⟨trivial, ?_⟩
  intro answer _
  dsimp only
  split
  next unread => exact .unread unread
  next missing =>
    refine ⟨trivial, ?_⟩
    intro reply _
    exact .creates missing
  next lease found =>
    obtain rfl := ApiAnswer.eq_of_present found
    exact goes_carryOut now lease

theorem roundOfWrite_ne_crashed (reply : Except ApiFailure Unit) :
    roundOfWrite reply ≠ .crashed := by
  cases reply with
  | ok written => simp [roundOfWrite]
  | error failure =>
      simp only [roundOfWrite]
      split <;> simp

/-- A write succeeds when it makes the lease the elector's, and only then. -/
theorem roundOfWrite_eq_held {reply : Except ApiFailure Unit} (held : roundOfWrite reply = .held) :
    reply = .ok () := by
  cases reply with
  | ok written => rfl
  | error failure =>
      simp only [roundOfWrite] at held
      split at held <;> cases held

variable (e) in
/-- What a round on a lease comes to, and what it writes over the lease. -/
inductive Treats (now : Timestamp) (lease : Lease) : Round → List Lease → Prop
  | crashes (decided : Lease.decide lease.spec e.identity now = none) :
    Treats now lease .crashed []
  | waits (decided : Lease.decide lease.spec e.identity now = some .wait) :
    Treats now lease .notHeld []
  | renews {reply : Except ApiFailure Unit}
    (decided : Lease.decide lease.spec e.identity now = some .renew) :
    Treats now lease (roundOfWrite reply) [renewed lease now]
  | takes {reply : Except ApiFailure Unit} {transitions : Int32}
    (decided : Lease.decide lease.spec e.identity now = some (.takeOver transitions)) :
    Treats now lease (roundOfWrite reply) [e.taken lease transitions now]

/-- A round that has read a lease treats it in one of these ways. -/
theorem Goes.treats {result : Round} {heard : List Exchange} {now : Timestamp} {lease : Lease}
    (goes : e.Goes result heard) (reading : now ∈ heard.filterMap Exchange.clock?)
    (read : lease ∈ heard.filterMap Exchange.lease?) :
    e.Treats now lease result (heard.filterMap Exchange.written?) := by
  cases goes with
  | unnamed => cases read
  | @unread _ answer _ unread =>
      cases answer with
      | ok found => cases unread
      | error failure => cases read
  | @creates _ answer _ missing =>
      cases answer with
      | ok found => cases missing
      | error failure => cases read
  | crashes decided =>
      obtain rfl := List.mem_singleton.mp reading
      obtain rfl := List.mem_singleton.mp read
      exact .crashes decided
  | waits decided =>
      obtain rfl := List.mem_singleton.mp reading
      obtain rfl := List.mem_singleton.mp read
      exact .waits decided
  | renews decided =>
      obtain rfl := List.mem_singleton.mp reading
      obtain rfl := List.mem_singleton.mp read
      exact .renews decided
  | takes decided =>
      obtain rfl := List.mem_singleton.mp reading
      obtain rfl := List.mem_singleton.mp read
      exact .takes decided

end Elector

end MachineProvider
