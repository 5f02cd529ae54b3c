/-!
# Procedures that ask questions

The work of a controller depends on what the cloud and the API server answer. A `Procedure` is such
work written down as a tree: it is done, or it asks a question and goes on with the answer. A
procedure is run by something that answers its questions one after the other; the same procedure
can be run against different answers, and what it asked can be listed.
-/

namespace MachineProvider

/-- Work that asks questions of a type `Q`, each with its own type of answers. -/
inductive Procedure (Q : Type) (Answer : Q → Type) (α : Type) where
  /-- The result is known. -/
  | done (result : α)
  /-- A question is asked, and its answer decides how to go on. -/
  | ask (question : Q) (next : Answer question → Procedure Q Answer α)

namespace Procedure

variable {Q : Type} {Answer : Q → Type} {α β σ : Type}

/-- Goes on with the result of a procedure. -/
def bind : Procedure Q Answer α → (α → Procedure Q Answer β) → Procedure Q Answer β
  | done result, f => f result
  | ask question next, f => ask question fun answer => (next answer).bind f

instance : Monad (Procedure Q Answer) where
  pure := done
  bind := bind

/-- One question, whose answer is the result. -/
def question (q : Q) : Procedure Q Answer (Answer q) :=
  ask q done

/-- Runs a procedure. Each question is answered in a state, which the answer may change. -/
def run (answer : (q : Q) → σ → Answer q × σ) : Procedure Q Answer α → σ → α × σ
  | done result, state => (result, state)
  | ask q next, state =>
    let (reply, state) := answer q state
    (next reply).run answer state

/-- Replaces each question by a procedure that finds its answer. -/
def interpret {R : Type} {Reply : R → Type} (how : (q : Q) → Procedure R Reply (Answer q)) :
    Procedure Q Answer α → Procedure R Reply α
  | done result => done result
  | ask q next => (how q).bind fun reply => (next reply).interpret how

@[simp] theorem done_bind (a : α) (f : α → Procedure Q Answer β) :
    (done a : Procedure Q Answer α).bind f = f a := rfl

@[simp] theorem ask_bind (q : Q) (next : Answer q → Procedure Q Answer α)
    (f : α → Procedure Q Answer β) :
    (ask q next).bind f = ask q fun answer => (next answer).bind f := rfl

/-- Running two procedures one after the other runs the second from where the first ended. -/
theorem run_bind (answer : (q : Q) → σ → Answer q × σ) (p : Procedure Q Answer α)
    (f : α → Procedure Q Answer β) (state : σ) :
    (p.bind f).run answer state =
      (f (p.run answer state).1).run answer (p.run answer state).2 := by
  induction p generalizing state with
  | done result => rfl
  | ask q next ih => simp only [ask_bind, run, ih]

end Procedure

end MachineProvider
