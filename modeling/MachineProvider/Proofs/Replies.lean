import MachineProvider.Proofs.Surroundings

/-!
# Services that get the same replies

Secrets, the connector and the cloud may answer alike each time they are asked. `Replies` are such
answers, and a run is explained by them when nothing interrupted it and each of its answers is the
one that they give. Only the clock may show something else each time. What a service does with given
replies is followed with the discipline `Replies.replaying`, which notes the instances that it asks
for; a part of it that does not look at the clock has one result (`Replies.Determines`).
-/

namespace MachineProvider

open Procedure

/-- The outcome of a request for a new instance. -/
def Exchange.creation? : Exchange → Option (Outcome CloudError Instance)
  | ⟨.call (.createInstance _), outcome⟩ => some outcome
  | _ => none

/-- The outcomes of the requests for new instances in a scene, the last one first. -/
def Scene.creations {κ : Type} (s : Scene κ) : List (Outcome CloudError Instance) :=
  s.log.filterMap Exchange.creation?

/-- What secrets, the connector and the cloud answer. -/
structure Replies where
  call : (r : Request) → Except r.Failure r.Success
  connect : Credentials → Except CloudError Unit

namespace Replies

/-- Whether the replies explain an answer: it was not interrupted, and it is the one they give. -/
def Explains (R : Replies) : Exchange → Prop
  | ⟨.call r, outcome⟩ => outcome = .finished (R.call r)
  | ⟨.connect credentials, result⟩ => result = R.connect credentials
  | ⟨.publish _, _⟩ => True
  | ⟨.now, _⟩ => True

/-- The discipline of a service that gets the replies. Its record is the list of the outcomes of
requests for new instances, the last one first. -/
def replaying (R : Replies) :
    Discipline Service.Question Service.Answer (List (Outcome CloudError Instance)) where
  next s q a := (Exchange.creation? ⟨q, a⟩).toList ++ s
  may _ _ := True
  expects _ q a := R.Explains ⟨q, a⟩

section Run

variable {κ α : Type} {W : Surroundings κ} {c : Conditions} {R : Replies}

theorem creations_answer (q : Service.Question) (s : Scene κ) :
    (W.answer c q s).2.creations = R.replaying.next s.creations q (W.answer c q s).1 := by
  rw [Scene.creations, Surroundings.answer_log, List.filterMap_cons]
  cases seen : Exchange.creation? ⟨q, (W.answer c q s).1⟩ <;>
    simp [replaying, seen, Scene.creations]

/-- What a service ensures of its result when it gets the replies, it ensures in every run that the
replies explain. -/
theorem run_explained {post : α → List (Outcome CloudError Instance) → Prop} {p : Service α}
    {s : Scene κ} (h : p.Follows R.replaying post s.creations)
    (explained : ∀ x ∈ (p.run (W.answer c) s).2.log, R.Explains x) :
    post (p.run (W.answer c) s).1 (p.run (W.answer c) s).2.creations := by
  induction p generalizing s with
  | done result => exact h
  | ask q next ih =>
      have logged : ⟨q, (W.answer c q s).1⟩ ∈ (W.answer c q s).2.log := by
        rw [Surroundings.answer_log]
        exact List.mem_cons_self
      have expected : R.Explains ⟨q, (W.answer c q s).1⟩ :=
        explained _ (Surroundings.mem_run_log (next _) logged)
      have onward : (next (W.answer c q s).1).Follows R.replaying post
          (W.answer c q s).2.creations := by
        rw [creations_answer]
        exact h.2 _ expected
      exact ih _ onward explained

end Run

section Gives

variable {α β : Type} (R : Replies)

/-- Whether a service that gets the replies has a result, and asks for no new instance. -/
def Gives (p : Service α) (a : α) : Prop :=
  ∀ s, p.Follows R.replaying (fun r s' => r = a ∧ s' = s) s

/-- Whether a service that gets the replies has one result, whatever the clock shows, and asks for
no new instance. -/
def Determines (p : Service α) : Prop :=
  ∃ a, R.Gives p a

variable {R}

theorem gives_done (a : α) : R.Gives (.done a) a :=
  fun _ => ⟨rfl, rfl⟩

/-- A service goes on with what the replies give its first part. -/
theorem Gives.bind {p : Service α} {a : α} {f : α → Service β}
    {post : β → List (Outcome CloudError Instance) → Prop} {s : List (Outcome CloudError Instance)}
    (h : R.Gives p a) (rest : (f a).Follows R.replaying post s) :
    (p.bind f).Follows R.replaying post s := by
  refine Follows.bind (h s) ?_
  rintro _ _ ⟨rfl, rfl⟩
  exact rest

theorem determines_done (a : α) : R.Determines (.done a) :=
  ⟨a, gives_done a⟩

theorem Determines.bind {p : Service α} {f : α → Service β} (h : R.Determines p)
    (rest : ∀ a, R.Determines (f a)) : R.Determines (p.bind f) := by
  obtain ⟨a, gives⟩ := h
  obtain ⟨b, gives'⟩ := rest a
  exact ⟨b, fun s => gives.bind (gives' s)⟩

/-- A request that creates nothing gets its reply. -/
theorem gives_call {r : Request}
    (other : ∀ outcome, Exchange.creation? ⟨.call r, outcome⟩ = none) :
    R.Gives (Service.call r) (Service.received r (.finished (R.call r))) := by
  intro s
  refine ⟨trivial, ?_⟩
  rintro _ rfl
  refine ⟨rfl, ?_⟩
  change (Exchange.creation? ⟨.call r, .finished (R.call r)⟩).toList ++ s = s
  rw [other]
  rfl

theorem determines_call {r : Request}
    (other : ∀ outcome, Exchange.creation? ⟨.call r, outcome⟩ = none) :
    R.Determines (Service.call r) :=
  ⟨_, gives_call other⟩

/-- Setting up a client has one result. -/
theorem determines_connect (location : SecretLocation) :
    R.Determines (Service.connect location) := by
  have credentials : R.Determines (Service.credentialsAt location) := by
    apply Determines.bind (determines_call fun _ => rfl)
    rintro (e | _ | data)
    · exact determines_done _
    · exact determines_done _
    · exact determines_done _
  apply credentials.bind
  rintro (e | credentials)
  · exact determines_done _
  · cases reply : R.connect credentials with
    | ok value =>
        refine ⟨.ok (), fun s => ⟨trivial, ?_⟩⟩
        rintro _ eq
        rw [eq, reply]
        exact ⟨rfl, rfl⟩
    | error e =>
        refine ⟨.error (.cloud e), fun s => ⟨trivial, ?_⟩⟩
        rintro _ eq
        rw [eq, reply]
        exact ⟨rfl, rfl⟩

end Gives

end Replies

end MachineProvider
