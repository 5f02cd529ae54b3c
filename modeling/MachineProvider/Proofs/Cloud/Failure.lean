import MachineProvider.Proofs.Cloud.Creation

/-!
# What the failures of operations say

That a resource does not exist is a failure of its own: a machine whose instance is gone counts as
failed for good, and lets go of its instance when it is deleted. An operation fails like this exactly
when it had a token and its request was answered with the status that says so (`Client.Misses`). No
failure to get a token does, nor any other status, nor an answer that does not come or cannot be
read, nor the look at a new instance. Every failure that comes from a request names the operation
that was attempted (`Client.Call.Reports`).
-/

namespace MachineProvider.Client

open Procedure

/-- Whether a client had a token and its request for an order was answered with the status that says
that there is no such resource. -/
def Misses (c : Client) (o : Order) (done : List Deed) : Prop :=
  ∃ (t : Trip) (response : HttpResponse), t.IsLawful c o ∧ t.deeds <:+ done ∧
    t.answer = .ok response ∧ response.status = 404

section Failures

variable {c : Client} {α : Type} {o : Errand α} {result : Ended α} {done : List Deed}
  {e : CloudError}

theorem of_granted_eq_error {response : HttpResponse} (h : granted response = .error e) :
    e.operation? = some authentication ∧ e.isNotFound = false := by
  unfold granted at h
  split at h
  · exact of_readBody_eq_error h
  · cases h
    exact ⟨rfl, rfl⟩

/-- A refusal says that it is one, and nothing about a resource. -/
theorem Refused.names (h : Refused c e done) :
    e.operation? = some authentication ∧ e.isNotFound = false := by
  cases h with
  | unbuilt => exact ⟨rfl, rfl⟩
  | unanswered => exact ⟨rfl, rfl⟩
  | denied _ _ _ denies => exact of_granted_eq_error denies

namespace Errand

theorem Fails.names (h : o.Fails c e done) :
    e.operation? = some authentication ∨ e.operation? = some o.operation := by
  cases h with
  | unauthorized refused => exact .inl refused.names.1
  | unreadable _ _ _ unread => exact .inr (o.unread unread).1
  | _ => exact .inr rfl

theorem Fails.misses (h : o.Fails c e done) (missing : e.isNotFound = true) :
    Misses c o.toOrder done := by
  obtain ⟨operation, resource, same⟩ := CloudError.isNotFound_iff.mp missing
  cases h with
  | unauthorized refused => exact absurd missing (Bool.eq_false_iff.mp refused.names.2)
  | @missing t response lawful answer status =>
      exact ⟨t, response, lawful, List.suffix_refl _, answer, status⟩
  | unreadable _ _ _ unread => exact absurd missing (Bool.eq_false_iff.mp (o.unread unread).2)
  | _ => cases same

theorem Ends.names (h : o.Ends c (.finished (.error e)) done) :
    e.operation? = some authentication ∨ e.operation? = some o.operation := by
  cases h with
  | failed fails => exact fails.names

/-- An errand says that there is no such resource exactly when that was the answer. -/
theorem Ends.isNotFound_iff (h : o.Ends c result done) :
    (∃ e, result = .finished (.error e) ∧ e.isNotFound = true) ↔ Misses c o.toOrder done := by
  constructor
  · rintro ⟨e, rfl, missing⟩
    cases h with
    | failed fails => exact fails.misses missing
  · rintro ⟨t, response, lawful, first, answer, status⟩
    obtain ⟨-, rfl⟩ := h.eq_conclusion lawful first
    rw [answer]
    exact ⟨_, congrArg _ (result_of_missing status), rfl⟩

/-- An errand that has brought a value misses nothing, whatever is done after it. -/
theorem Brings.not_misses {t : Trip} {value : α} (h : o.Brings c t value)
    (first : t.deeds <:+ done) : ¬ Misses c o.toOrder done := by
  rintro ⟨t', response, lawful, first', answer, status⟩
  obtain ⟨-, answers⟩ := lawful.answer_eq h.lawful first' first
  have brought := h.conclusion_eq
  rw [← answers, answer] at brought
  cases (result_of_missing status).symm.trans brought

end Errand

/-- Creating an instance says that there is no such resource exactly when that was the answer to the
request for it. -/
theorem Creates.isNotFound_iff {r : InstanceRequest} {result : Ended Instance}
    (h : Creates c r result done) :
    (∃ e, result = .finished (.error e) ∧ e.isNotFound = true) ↔
      Misses c (creation r).toOrder done := by
  cases h with
  | failed fails =>
      refine Iff.trans ?_ (Errand.Ends.failed fails).isNotFound_iff
      simp
  | crashed lawful =>
      refine Iff.trans ?_ (Errand.Ends.crashed lawful).isNotFound_iff
      simp
  | @accepted t id looked back accepts ends =>
      refine iff_of_false ?_ (accepts.not_misses (List.suffix_append _ _))
      rintro ⟨e, ended, -⟩
      rcases looked with - | (e' | i) <;> cases ended

theorem Creates.names {r : InstanceRequest} (h : Creates c r (.finished (.error e)) done) :
    e.operation? = some authentication ∨ e.operation? = some (creation r).operation := by
  generalize ended : Ended.finished (Except.error e) = result at h
  cases h with
  | failed fails =>
      cases ended
      exact fails.names
  | crashed => cases ended
  | @accepted t id looked back accepts ends => rcases looked with - | (e' | i) <;> cases ended

end Failures

/-- An operation whose value does not matter. -/
def forget {α : Type} (operation : Operation α) : Operation Unit :=
  Procedure.bind operation fun ended => .done (ended.map fun _ => ())

namespace Call

/-- An operation with its failure. -/
def conclude (c : Client) : Call → Operation Unit
  | createInstance r => forget (c.createInstance r)
  | getInstance id => forget (c.getInstance id)
  | deleteInstance id => forget (c.deleteInstance id)
  | startInstance id => forget (c.startInstance id)
  | stopInstance id => forget (c.stopInstance id)
  | listImages => forget c.listImages
  | getImage id => forget (c.getImage id)
  | listSshKeys => forget c.listSshKeys
  | createSshKey name publicKey => forget (c.createSshKey name publicKey)
  | deleteSshKey id => forget (c.deleteSshKey id)
  | createLoadBalancer => forget c.createLoadBalancer
  | getLoadBalancer id => forget (c.getLoadBalancer id)
  | deleteLoadBalancer id => forget (c.deleteLoadBalancer id)
  | updateLoadBalancerTargets id => forget (c.updateLoadBalancerTargets id)

/-- The request that an operation is about: of creating an instance, the first of the two. -/
def order? : Call → Option Order
  | createInstance r => some (creation r).toOrder
  | getInstance id => some (lookUp id).toOrder
  | deleteInstance id => some
      { operation := "delete instance " ++ id, resource := "instance " ++ id, method := .delete
        path := "/instances/" ++ id, body := none }
  | startInstance id => some
      { operation := "start instance " ++ id, resource := "instance " ++ id, method := .post
        path := "/instances/" ++ id ++ "/start", body := none }
  | stopInstance id => some
      { operation := "stop instance " ++ id, resource := "instance " ++ id, method := .post
        path := "/instances/" ++ id ++ "/stop", body := none }
  | listImages => some
      { operation := "list images", resource := "images", method := .get
        path := "/images", body := none }
  | getImage id => some
      { operation := "get image " ++ id, resource := "image " ++ id, method := .get
        path := "/images/" ++ id, body := none }
  | listSshKeys => some
      { operation := "list SSH keys", resource := "ssh-keys", method := .get
        path := "/ssh-keys", body := none }
  | createSshKey name publicKey => some
      { operation := "create SSH key " ++ name, resource := "ssh-keys", method := .post
        path := "/ssh-keys", body := some (Message.createSshKey name publicKey) }
  | deleteSshKey id => some
      { operation := "delete SSH key " ++ id, resource := "SSH key " ++ id, method := .delete
        path := "/ssh-keys/" ++ id, body := none }
  | _ => none

/-- What the end of an operation says about what was done. -/
structure Reports (c : Client) (call : Call) (result : Ended Unit) (done : List Deed) : Prop where
  /-- It says that there is no such resource exactly when that was the answer to its request. -/
  notFound : (∃ e, result = .finished (.error e) ∧ e.isNotFound = true) ↔
    ∃ o, call.order? = some o ∧ Misses c o done
  /-- A failure names the operation or the authentication, also in its text, unless it is about a
  load balancer. -/
  names : call.isAboutLoadBalancer = false → ∀ e, result = .finished (.error e) →
    ∃ operation rest, e.operation? = some operation ∧ e.message = operation ++ ": " ++ rest ∧
      (operation = authentication ∨ ∃ o, call.order? = some o ∧ operation = o.operation)

variable {c : Client} {call : Call} {done : List Deed}

theorem map_eq_error_iff {α : Type} {ended : Ended α} {e : CloudError} :
    ended.map (fun _ => ()) = .finished (.error e) ↔ ended = .finished (.error e) := by
  rcases ended with - | (e' | value) <;> simp [Ended.map, Except.map]

/-- An operation about an order reports what it should when it says what was missed, and names the
order. -/
theorem reports_forget {α : Type} {post : Ended α → List Deed → Prop} {operation : Operation α}
    (h : operation.Follows recording post []) {o : Order} (about : call.order? = some o)
    (notFound : ∀ {ended done}, post ended done →
      ((∃ e, ended = .finished (.error e) ∧ e.isNotFound = true) ↔ Misses c o done))
    (names : ∀ {e done}, post (.finished (.error e)) done →
      e.operation? = some authentication ∨ e.operation? = some o.operation) :
    (forget operation).Follows recording (call.Reports c) [] := by
  apply h.bind
  intro ended done suits
  constructor
  · simpa [about, map_eq_error_iff] using notFound suits
  · intro _ e failed
    rw [map_eq_error_iff] at failed
    subst failed
    rcases names suits with named | named
    · obtain ⟨rest, text⟩ := CloudError.message_of_operation? named
      exact ⟨_, rest, named, text, .inl rfl⟩
    · obtain ⟨rest, text⟩ := CloudError.message_of_operation? named
      exact ⟨_, rest, named, text, .inr ⟨o, about, rfl⟩⟩

theorem reports_errand {α : Type} (o : Errand α) (about : call.order? = some o.toOrder) :
    (forget (o.run c)).Follows recording (call.Reports c) [] :=
  reports_forget (o.follows_run c) about (fun ends => ends.isNotFound_iff) fun ends => ends.names

theorem order?_of_isAboutLoadBalancer (about : call.isAboutLoadBalancer = true) :
    call.order? = none := by
  cases call <;> first | rfl | cases about

/-- An operation that is not offered asks nothing and says so. -/
theorem reports_unimplemented {α : Type} (what : String) (about : call.isAboutLoadBalancer = true) :
    (forget (unimplemented what : Operation α)).Follows recording (call.Reports c) [] := by
  constructor
  · refine iff_of_false ?_ ?_
    · rintro ⟨e, ⟨⟩, missing⟩
      cases missing
    · rintro ⟨o, asked, -⟩
      cases (order?_of_isAboutLoadBalancer about).symm.trans asked
  · intro other
    rw [about] at other
    cases other

theorem reports_conclude (c : Client) (call : Call) :
    (call.conclude c).Follows recording (call.Reports c) [] := by
  cases call with
  | createInstance r =>
      exact reports_forget (creates_createInstance c r) rfl (fun creates => creates.isNotFound_iff)
        fun creates => creates.names
  | getInstance id => exact reports_errand (lookUp id) rfl
  | deleteInstance id =>
      have about : (deleteInstance id).order? = some _ := rfl
      exact (reports_errand (Errand.ofStatus _) about :)
  | startInstance id =>
      have about : (startInstance id).order? = some _ := rfl
      exact (reports_errand (Errand.ofStatus _) about :)
  | stopInstance id =>
      have about : (stopInstance id).order? = some _ := rfl
      exact (reports_errand (Errand.ofStatus _) about :)
  | listImages =>
      have about : listImages.order? = some _ := rfl
      exact (reports_errand (Errand.ofBody _ Message.images?) about :)
  | getImage id =>
      have about : (getImage id).order? = some _ := rfl
      exact (reports_errand (Errand.ofBody _ Message.image?) about :)
  | listSshKeys =>
      have about : listSshKeys.order? = some _ := rfl
      exact (reports_errand (Errand.ofBody _ Message.sshKeys?) about :)
  | createSshKey name publicKey =>
      have about : (createSshKey name publicKey).order? = some _ := rfl
      exact (reports_errand (Errand.ofBody _ Message.sshKey?) about :)
  | deleteSshKey id =>
      have about : (deleteSshKey id).order? = some _ := rfl
      exact (reports_errand (Errand.ofStatus _) about :)
  | createLoadBalancer => exact reports_unimplemented _ rfl
  | getLoadBalancer id => exact reports_unimplemented _ rfl
  | deleteLoadBalancer id => exact reports_unimplemented _ rfl
  | updateLoadBalancerTargets id => exact reports_unimplemented _ rfl

/-- Whatever an operation is asked for, it says that there is no such resource exactly when it had a
token and that was the answer to its request, and it names what failed. -/
theorem reports_ran (c : Client) (call : Call) {σ : Type}
    (answer : (q : Question) → σ → Answer q × σ) (s : σ) :
    call.Reports c ((call.conclude c).ran answer s).1 ((call.conclude c).ran answer s).2 :=
  ran_of_follows (reports_conclude c call) answer s

/-- That nothing is found where tokens are granted says nothing about an instance. -/
example : (match (((Call.getInstance "i-1").conclude sample).ran Script.answer
    { answers := [.ok ⟨404, none⟩] }).1 with
      | .finished (.error e) => some e.isNotFound
      | _ => none) = some false := by decide +kernel

end Call

end MachineProvider.Client
