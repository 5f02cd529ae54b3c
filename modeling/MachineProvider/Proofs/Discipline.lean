import MachineProvider.Controller.Basic
import MachineProvider.Procedure

/-!
# Procedures that keep to a discipline

A discipline looks at a procedure from outside: it keeps a record of the answers so far, says which
questions may be asked with that record, and which answers are to be expected. A procedure follows
the discipline when it asks nothing else, whatever it is answered, and when its result suits the
record that it ends with. What a procedure follows is put together from its parts (`follows_bind`),
and it is all that is needed to know about a procedure that is in the middle of its work.
-/

namespace MachineProvider

/-- What may be asked and answered, with a record of the answers so far. -/
structure Discipline (Q : Type) (Answer : Q → Type) (σ : Type) where
  /-- The record after an answer. -/
  next : σ → (q : Q) → Answer q → σ
  /-- Whether a question may be asked. -/
  may : σ → Q → Prop
  /-- Whether an answer is to be expected. -/
  expects : σ → (q : Q) → Answer q → Prop

namespace Procedure

variable {Q : Type} {Answer : Q → Type} {α β σ : Type}

@[simp] theorem pure_eq (a : α) : (pure a : Procedure Q Answer α) = done a := rfl

/-- Three procedures one after the other may be put together in either way. -/
theorem bind_bind {γ : Type} (p : Procedure Q Answer α) (f : α → Procedure Q Answer β)
    (g : β → Procedure Q Answer γ) : (p.bind f).bind g = p.bind fun a => (f a).bind g := by
  induction p with
  | done result => rfl
  | ask q next ih => exact congrArg (ask q) (funext ih)

theorem bind_done (p : Procedure Q Answer α) : p.bind done = p := by
  induction p with
  | done result => rfl
  | ask q next ih => exact congrArg (ask q) (funext ih)

/-- When the second of two procedures asks nothing, the run ends where the first one did. -/
theorem snd_run_bind {answer : (q : Q) → σ → Answer q × σ} {p : Procedure Q Answer α}
    {f : α → Procedure Q Answer β} {s : σ} (ends : ∀ a, ∃ b, f a = done b) :
    ((p.bind f).run answer s).2 = (p.run answer s).2 := by
  obtain ⟨b, same⟩ := ends (p.run answer s).1
  rw [run_bind, same]
  rfl

/-- A procedure asks only what it may, as long as its answers are to be expected, and its result
suits the record that it ends with. -/
def Follows (d : Discipline Q Answer σ) (post : α → σ → Prop) : Procedure Q Answer α → σ → Prop
  | done result, s => post result s
  | ask q next, s => d.may s q ∧ ∀ a, d.expects s q a → (next a).Follows d post (d.next s q a)

variable {d : Discipline Q Answer σ}

@[simp] theorem follows_done (post : α → σ → Prop) (a : α) (s : σ) :
    (done a : Procedure Q Answer α).Follows d post s ↔ post a s := Iff.rfl

@[simp] theorem follows_ask (post : α → σ → Prop) (q : Q)
    (next : Answer q → Procedure Q Answer α) (s : σ) :
    (ask q next).Follows d post s ↔
      d.may s q ∧ ∀ a, d.expects s q a → (next a).Follows d post (d.next s q a) := Iff.rfl

/-- A procedure that suits one condition suits every weaker one. -/
theorem Follows.mono {post post' : α → σ → Prop} {p : Procedure Q Answer α} {s : σ}
    (h : p.Follows d post s) (weaker : ∀ a s, post a s → post' a s) : p.Follows d post' s := by
  induction p generalizing s with
  | done result => exact weaker _ _ h
  | ask q next ih =>
      refine ⟨h.1, ?_⟩
      intro a expected
      exact ih a (h.2 a expected)

/-- Two procedures one after the other follow a discipline when the second does so from every
record that the first may end with. -/
theorem follows_bind (post : β → σ → Prop) (p : Procedure Q Answer α)
    (f : α → Procedure Q Answer β) (s : σ) :
    (p.bind f).Follows d post s ↔ p.Follows d (fun a s => (f a).Follows d post s) s := by
  induction p generalizing s with
  | done result => rfl
  | ask q next ih => simp only [ask_bind, follows_ask, ih]

/-- The second of two procedures is looked at with what the first one ensures. -/
theorem Follows.bind {mid : α → σ → Prop} {post : β → σ → Prop} {p : Procedure Q Answer α}
    {f : α → Procedure Q Answer β} {s : σ} (h : p.Follows d mid s)
    (rest : ∀ a s, mid a s → (f a).Follows d post s) : (p.bind f).Follows d post s :=
  (follows_bind post p f s).mpr (h.mono rest)

/-- What follows a discipline follows another one that keeps a related record, as long as it allows
what the first one allows and expects no other answers. -/
theorem Follows.simulate {σ' : Type} {d' : Discipline Q Answer σ'} {R : σ → σ' → Prop}
    {post : α → σ → Prop} {p : Procedure Q Answer α} {s : σ} {s' : σ'} (h : p.Follows d post s)
    (related : R s s') (may : ∀ s s' q, R s s' → d.may s q → d'.may s' q)
    (expects : ∀ s s' q a, R s s' → d'.expects s' q a → d.expects s q a)
    (next : ∀ s s' q a, R s s' → d.may s q → d'.expects s' q a → R (d.next s q a) (d'.next s' q a)) :
    p.Follows d' (fun a s' => ∃ s, R s s' ∧ post a s) s' := by
  induction p generalizing s s' with
  | done result => exact ⟨s, related, h⟩
  | ask q rest ih =>
      refine ⟨may s s' q related h.1, ?_⟩
      intro a expected
      exact ih a (h.2 a (expects s s' q a related expected)) (next s s' q a related h.1 expected)

/-- What follows a discipline also follows one that allows more, or that expects fewer answers. -/
theorem Follows.weaken {d' : Discipline Q Answer σ} {post : α → σ → Prop} {p : Procedure Q Answer α}
    {s : σ} (h : p.Follows d post s) (next : d.next = d'.next)
    (may : ∀ s q, d.may s q → d'.may s q) (expects : ∀ s q a, d'.expects s q a → d.expects s q a) :
    p.Follows d' post s := by
  have same : p.Follows d' (fun a s' => ∃ s, s = s' ∧ post a s) s :=
    h.simulate (R := Eq) rfl (fun s _ q related => related ▸ may s q)
      (fun s _ q a related => related ▸ expects s q a)
      (fun _ _ q a related _ _ => by rw [related, next])
  refine same.mono ?_
  rintro a s ⟨_, rfl, suits⟩
  exact suits

/-- Whether a procedure leaves its record as it is. -/
def Keeps (d : Discipline Q Answer σ) (s : σ) (p : Procedure Q Answer α) : Prop :=
  p.Follows d (fun _ s' => s' = s) s

theorem keeps_done (result : α) (s : σ) : (done result : Procedure Q Answer α).Keeps d s := rfl

theorem Keeps.ask {q : Q} {rest : Answer q → Procedure Q Answer α} {s : σ} (may : d.may s q)
    (same : ∀ a, d.next s q a = s) (h : ∀ a, (rest a).Keeps d s) : (ask q rest).Keeps d s := by
  refine ⟨may, ?_⟩
  intro a _
  rw [same]
  exact h a

theorem Keeps.bind {p : Procedure Q Answer α} {f : α → Procedure Q Answer β} {s : σ}
    (h : p.Keeps d s) (rest : ∀ a, (f a).Keeps d s) : (p.bind f).Keeps d s := by
  refine Follows.bind h ?_
  rintro a _ rfl
  exact rest a

/-- A run whose answers are to be expected ends with a result that suits its record. -/
theorem Follows.run {τ : Type} {post : α → σ → Prop} {answer : (q : Q) → τ → Answer q × τ}
    {view : τ → σ} {p : Procedure Q Answer α} {t : τ} (h : p.Follows d post (view t))
    (expected : ∀ q t, d.expects (view t) q (answer q t).1)
    (kept : ∀ q t, view (answer q t).2 = d.next (view t) q (answer q t).1) :
    post (p.run answer t).1 (view (p.run answer t).2) := by
  induction p generalizing t with
  | done result => exact h
  | ask q next ih =>
      apply ih
      rw [kept]
      exact h.2 _ (expected q t)

/-- Whether every result of a procedure is of a kind, whatever it is answered. -/
def Yields (P : α → Prop) : Procedure Q Answer α → Prop
  | done result => P result
  | ask _ next => ∀ a, (next a).Yields P

theorem yields_of_forall {P : α → Prop} (h : ∀ a, P a) (p : Procedure Q Answer α) : p.Yields P := by
  induction p with
  | done result => exact h result
  | ask q next ih => exact ih

theorem Yields.and {P P' : α → Prop} {p : Procedure Q Answer α} (h : p.Yields P) (h' : p.Yields P') :
    p.Yields fun a => P a ∧ P' a := by
  induction p with
  | done result => exact ⟨h, h'⟩
  | ask q next ih => exact fun a => ih a (h a) (h' a)

theorem Yields.mono {P P' : α → Prop} {p : Procedure Q Answer α} (h : p.Yields P)
    (weaker : ∀ a, P a → P' a) : p.Yields P' := by
  induction p with
  | done result => exact weaker result h
  | ask q next ih => exact fun a => ih a (h a)

theorem Yields.bind {P : α → Prop} {P' : β → Prop} {p : Procedure Q Answer α}
    {f : α → Procedure Q Answer β} (h : p.Yields P) (rest : ∀ a, P a → (f a).Yields P') :
    (p.bind f).Yields P' := by
  induction p with
  | done result => exact rest result h
  | ask q next ih => exact fun a => ih a (h a)

/-- A run ends with a result of the kind, whatever answers its questions. -/
theorem Yields.run {τ : Type} {P : α → Prop} {p : Procedure Q Answer α} (h : p.Yields P)
    (answer : (q : Q) → τ → Answer q × τ) (t : τ) : P (p.run answer t).1 := by
  induction p generalizing t with
  | done result => exact h
  | ask q next ih => exact ih _ (h _) _

/-- The results of a procedure suit the records that it may end with, when every answer is to be
expected. -/
theorem Follows.yields {post : α → σ → Prop} {p : Procedure Q Answer α} {s : σ}
    (h : p.Follows d post s) (expected : ∀ s q a, d.expects s q a) :
    p.Yields fun a => ∃ s', post a s' := by
  induction p generalizing s with
  | done result => exact ⟨s, h⟩
  | ask q next ih => exact fun a => ih a (h.2 a (expected s q a))

/-- A procedure that may ask everything and learns nothing follows a discipline. -/
theorem Yields.follows {P : α → Prop} {p : Procedure Q Answer α} {s : σ} (h : p.Yields P)
    (may : ∀ q, d.may s q) (same : ∀ q a, d.next s q a = s) :
    p.Follows d (fun a s' => s' = s ∧ P a) s := by
  induction p with
  | done result => exact ⟨rfl, h⟩
  | ask q next ih =>
      refine ⟨may q, ?_⟩
      intro a _
      rw [same]
      exact ih a (h a)

end Procedure

/-- Reading an object that may be missing leaves a record as it is when the question does. -/
theorem Controller.keeps_fetchOptional {σ : Type}
    {d : Discipline Controller.Question Controller.Answer σ} {s : σ} {kind : Kind}
    {«namespace» name : String} (may : d.may s (.fetch kind «namespace» name))
    (same : ∀ a, d.next s (.fetch kind «namespace» name) a = s) :
    (fetchOptional kind «namespace» name).Keeps d s := by
  unfold fetchOptional
  split
  · exact Procedure.keeps_done _ _
  · exact .ask may same fun _ => Procedure.keeps_done _ _

/-- Setting up a client leaves a record as it is when reading secrets and connecting do. -/
theorem Service.keeps_connect {σ : Type} {d : Discipline Service.Question Service.Answer σ} {s : σ}
    {location : SecretLocation}
    (mayRead : d.may s (.call (.readSecret .credentials location)))
    (sameRead : ∀ a, d.next s (.call (.readSecret .credentials location)) a = s)
    (mayConnect : ∀ credentials, d.may s (.connect credentials))
    (sameConnect : ∀ credentials a, d.next s (.connect credentials) a = s) :
    (Service.connect location).Keeps d s := by
  have credentials : (Service.credentialsAt location).Keeps d s := by
    refine Procedure.Keeps.bind (.ask mayRead sameRead fun _ => Procedure.keeps_done _ _) ?_
    rintro (e | data | data) <;> exact Procedure.keeps_done _ _
  refine credentials.bind ?_
  rintro (e | credentials)
  · exact Procedure.keeps_done _ _
  · refine .ask (mayConnect credentials) (sameConnect credentials) ?_
    rintro (e | ⟨⟩) <;> exact Procedure.keeps_done _ _

/-- The part of a controller's discipline that concerns the services. -/
def Discipline.onServices {σ : Type}
    (d : Discipline Controller.Question Controller.Answer σ) :
    Discipline Service.Question Service.Answer σ where
  next s q a := d.next s (.service q) a
  may s q := d.may s (.service q)
  expects s q a := d.expects s (.service q) a

/-- A service as a part of a controller's procedure follows the part of the discipline that
concerns the services. -/
theorem Controller.follows_ofService {α σ : Type}
    (d : Discipline Controller.Question Controller.Answer σ) (post : α → σ → Prop)
    (service : Service α) (s : σ) :
    (Controller.ofService service).Follows d post s ↔ service.Follows d.onServices post s := by
  induction service generalizing s with
  | done result => rfl
  | ask q next ih =>
      change (d.may s (.service q) ∧ ∀ a, d.expects s (.service q) a →
        (Controller.ofService (next a)).Follows d post (d.next s (.service q) a)) ↔ _
      simp only [ih]
      rfl

/-- A service changes nothing in the record of a discipline that takes no notice of services. -/
theorem Controller.keeps_ofService_of_forall {α σ : Type}
    {d : Discipline Controller.Question Controller.Answer σ} {s : σ}
    (may : ∀ q, d.may s (.service q)) (same : ∀ q a, d.next s (.service q) a = s)
    (service : Service α) : (Controller.ofService service).Keeps d s := by
  apply (Controller.follows_ofService _ _ _ _).mpr
  have free : service.Yields fun _ => True := Procedure.yields_of_forall (fun _ => trivial) service
  exact (free.follows may same).mono fun _ _ h => h.1

end MachineProvider
