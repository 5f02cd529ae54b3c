import MachineProvider.Proofs.Discipline
import MachineProvider.Proofs.Guard

/-!
# Services in their surroundings

The secrets, the cloud and the connector that a service meets are `Surroundings`: a world that
answers requests and changes with them. The same service can be run in the same world under different
conditions, with calls that are interrupted or with none. `run_calm` says when that makes no
difference: when no call was disturbed, a run is the same as without disturbances.
-/

namespace MachineProvider

/-- A question to the services with its answer. -/
structure Exchange where
  question : Service.Question
  answer : Service.Answer question

namespace Exchange

/-- Whether the answer is the one that a call gets when nothing interrupts it and secrets can be
read. -/
def IsUndisturbed : Exchange → Prop
  | ⟨.call (.readSecret ..), .finished (.ok _)⟩ => True
  | ⟨.call (.readSecret ..), _⟩ => False
  | ⟨.call _, .finished _⟩ => True
  | ⟨.call _, _⟩ => False
  | _ => True

/-- Whether the cloud was asked for something. -/
def AsksCloud : Exchange → Prop
  | ⟨.call (.readSecret ..), _⟩ => False
  | ⟨.call _, _⟩ => True
  | _ => False

/-- Whether the cloud said that an instance is gone. -/
def ConfirmsGone : Exchange → Prop
  | ⟨.call (.getInstance _), .finished (.error e)⟩ => e.isNotFound = true
  | ⟨.call (.deleteInstance _), .finished (.ok ())⟩ => True
  | ⟨.call (.deleteInstance _), .finished (.error e)⟩ => e.isNotFound = true
  | _ => False

/-- Whether reading the credentials was interrupted or failed. -/
def LosesCredentials : Exchange → Prop
  | ⟨.call (.readSecret .credentials _), .finished (.ok _)⟩ => False
  | ⟨.call (.readSecret .credentials _), _⟩ => True
  | _ => False

/-- Whether a request to the cloud was interrupted. -/
def InterruptsCloud : Exchange → Prop
  | ⟨.call (.readSecret ..), _⟩ => False
  | ⟨.call _, .refused _⟩ => True
  | ⟨.call _, .abandoned _⟩ => True
  | _ => False

end Exchange

/-- A world of type `κ` that services are used in. What it does may depend on the instant. -/
structure Surroundings (κ : Type) where
  /-- How long the work of a request takes. -/
  duration : Request → Nat → κ → Nat
  /-- What comes of a request whose result is waited for. -/
  work : (r : Request) → Nat → κ → Except r.Failure r.Success × κ
  /-- What a request changes when it was sent and nobody waits for its result. -/
  leave : Request → Nat → κ → κ
  /-- Whether a client for the cloud can be set up. -/
  connect : Credentials → Nat → κ → Except CloudError Unit
  /-- What the clock shows. -/
  clock : Nat → κ → Timestamp

/-- What may disturb a run. -/
structure Conditions where
  /-- How a call ends that starts at an instant and whose work takes some time. -/
  ending : Patience → Nat → Nat → CallEnd
  /-- The failure of all reads of secrets, when they fail. -/
  unreadable : Option ApiFailure

namespace Conditions

/-- Nothing disturbs the run. -/
def calm : Conditions where
  ending _ start duration := .finished (start + duration)
  unreadable := none

@[simp] theorem calm_ending (patience : Patience) (start duration : Nat) :
    calm.ending patience start duration = .finished (start + duration) := rfl

/-- The run is under a guard, and secrets may be unreadable. -/
def under (g : Guard) (unreadable : Option ApiFailure) : Conditions where
  ending := g.call
  unreadable

/-- A call that finishes does so when its work ends. -/
def IsPrompt (c : Conditions) : Prop :=
  ∀ patience start duration ended,
    c.ending patience start duration = .finished ended → ended = start + duration

theorem isPrompt_under (g : Guard) (unreadable : Option ApiFailure) :
    (under g unreadable).IsPrompt :=
  fun _ _ _ _ h => Guard.call_finished h

end Conditions

/-- The world at an instant of a run, and what was asked and answered, the last exchange first. -/
structure Scene (κ : Type) where
  world : κ
  instant : Nat
  log : List Exchange

namespace Surroundings

variable {κ α : Type} (W : Surroundings κ) (c : Conditions)

/-- What comes of a request under conditions. -/
def reply : (r : Request) → Nat → κ → Except r.Failure r.Success × κ
  | .readSecret purpose location, instant, world =>
    match c.unreadable with
    | some e => (.error (.api e), world)
    | none => W.work (.readSecret purpose location) instant world
  | r, instant, world => W.work r instant world

/-- The world after a call. -/
def worldAfter (r : Request) (s : Scene κ) : CallEnd → κ
  | .refused _ => s.world
  | .abandoned .. => W.leave r s.instant s.world
  | .finished _ => (W.reply c r s.instant s.world).2

/-- Answers a question. -/
def answer : (q : Service.Question) → Scene κ → Service.Answer q × Scene κ
  | .call r, s =>
    let ending := c.ending r.patience s.instant (W.duration r s.instant s.world)
    let outcome : Service.Answer (.call r) := ending.outcome (W.reply c r s.instant s.world).1
    (outcome,
      { world := W.worldAfter c r s ending
        instant := ending.instant s.instant
        log := ⟨.call r, outcome⟩ :: s.log })
  | .connect credentials, s =>
    let result := W.connect credentials s.instant s.world
    (result, { s with log := ⟨.connect credentials, result⟩ :: s.log })
  | .publish event, s => ((), { s with log := ⟨.publish event, ()⟩ :: s.log })
  | .now, s =>
    let now := W.clock s.instant s.world
    (now, { s with log := ⟨.now, now⟩ :: s.log })

variable {W c}

/-- Every answer is logged. -/
theorem answer_log (q : Service.Question) (s : Scene κ) :
    (W.answer c q s).2.log = ⟨q, (W.answer c q s).1⟩ :: s.log := by
  cases q <;> rfl

/-- What was logged stays in the log. -/
theorem mem_run_log (p : Service α) {s : Scene κ} {x : Exchange} (h : x ∈ s.log) :
    x ∈ (p.run (W.answer c) s).2.log := by
  induction p generalizing s with
  | done result => exact h
  | ask q next ih =>
      have logged : x ∈ (W.answer c q s).2.log := by
        rw [answer_log]
        exact List.mem_cons_of_mem _ h
      exact ih _ logged

/-- The reply to an undisturbed call is the one in calm conditions. -/
theorem reply_calm {r : Request} {s : Scene κ} {ended : Nat}
    (undisturbed : Exchange.IsUndisturbed
      ⟨.call r, (CallEnd.finished ended).outcome (W.reply c r s.instant s.world).1⟩) :
    W.reply .calm r s.instant s.world = W.reply c r s.instant s.world := by
  cases r with
  | readSecret purpose location =>
      cases hu : c.unreadable with
      | none => simp only [reply, hu, Conditions.calm]
      | some e =>
          simp only [reply, hu] at undisturbed
          exact undisturbed.elim
  | _ => rfl

/-- An undisturbed call is answered as in calm conditions. -/
theorem answer_calm (prompt : c.IsPrompt) (q : Service.Question) (s : Scene κ)
    (undisturbed : Exchange.IsUndisturbed ⟨q, (W.answer c q s).1⟩) :
    W.answer .calm q s = W.answer c q s := by
  cases q with
  | call r =>
      change Exchange.IsUndisturbed ⟨.call r, (c.ending r.patience s.instant
        (W.duration r s.instant s.world)).outcome (W.reply c r s.instant s.world).1⟩ at undisturbed
      cases he : c.ending r.patience s.instant (W.duration r s.instant s.world) with
      | refused cause =>
          rw [he] at undisturbed
          cases r <;> exact undisturbed.elim
      | abandoned cause instant =>
          rw [he] at undisturbed
          cases r <;> exact undisturbed.elim
      | finished ended =>
          rw [he] at undisturbed
          have same := reply_calm undisturbed
          obtain rfl := prompt _ _ _ _ he
          simp only [answer, worldAfter, he, same, Conditions.calm_ending, CallEnd.outcome,
            CallEnd.instant]
  | connect credentials => rfl
  | publish event => rfl
  | now => rfl

/-- A run in which nothing was disturbed is the same as in calm conditions. -/
theorem run_calm (prompt : c.IsPrompt) (p : Service α) {s : Scene κ}
    (undisturbed : ∀ x ∈ (p.run (W.answer c) s).2.log, x.IsUndisturbed) :
    p.run (W.answer .calm) s = p.run (W.answer c) s := by
  induction p generalizing s with
  | done result => rfl
  | ask q next ih =>
      have logged : ⟨q, (W.answer c q s).1⟩ ∈ (W.answer c q s).2.log := by
        rw [answer_log]
        exact List.mem_cons_self
      have logged' : ⟨q, (W.answer c q s).1⟩ ∈ ((Procedure.ask q next).run (W.answer c) s).2.log :=
        mem_run_log (next _) logged
      have first := answer_calm prompt q s (undisturbed _ logged')
      have rest := ih _ undisturbed
      change (next (W.answer .calm q s).1).run (W.answer .calm) (W.answer .calm q s).2 = _
      rw [first]
      exact rest

/-- The discipline that only keeps a log. -/
def logging : Discipline Service.Question Service.Answer (List Exchange) where
  next log q a := ⟨q, a⟩ :: log
  may _ _ := True
  expects _ _ _ := True

/-- What a service ensures of its result and its log, it ensures in all surroundings. -/
theorem run_logged {post : α → List Exchange → Prop} {p : Service α} {s : Scene κ}
    (h : p.Follows logging post s.log) :
    post (p.run (W.answer c) s).1 (p.run (W.answer c) s).2.log :=
  h.run (fun _ _ => trivial) fun q s => answer_log q s

section Secrets

variable (W) (purpose : SecretPurpose) (location : SecretLocation) (s : Scene κ)

/-- What reading a secret gives when it comes to its end. -/
def secret : Except Error (Option SecretData) :=
  (W.work (.readSecret purpose location) s.instant s.world).1

/-- Whether a guard does not fire while a secret is read. -/
def LetsRead (g : Guard) : Prop :=
  ∃ ended, g.call .interruptible s.instant
    (W.duration (.readSecret purpose location) s.instant s.world) = .finished ended

variable {W purpose location s}

/-- Under a guard that does not fire a secret is read as it is. -/
theorem LetsRead.run_call {g : Guard} (h : W.LetsRead purpose location s g) :
    ((Service.call (.readSecret purpose location)).run (W.answer (.under g none)) s).1 =
      W.secret purpose location s := by
  obtain ⟨ended, finished⟩ := h
  have answered : (W.answer (.under g none) (.call (.readSecret purpose location)) s).1 =
      .finished (W.secret purpose location s) := by
    simp only [answer, Conditions.under, Request.patience, finished, CallEnd.outcome]
    rfl
  simp only [Service.call, Procedure.run, answered]
  cases W.secret purpose location s <;> rfl

end Secrets

end Surroundings

end MachineProvider
