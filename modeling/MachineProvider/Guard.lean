import MachineProvider.Error

/-!
# Guarded calls

The external calls of one reconcile share a guard: a deadline and a token that is cancelled when the
process shuts down. A call under a guard is looked at whenever something that matters to it happens.
At each look a cancellation counts first, then the result of the work, then the deadline. A call of
the other kind, for work that must not be abandoned, is only checked before the work starts.

Instants are milliseconds of a monotonic clock. A cancellation that falls on the same instant as
something else comes after it.
-/

namespace MachineProvider

/-- Why a call ended without the result of its work. -/
inductive Interruption where
  | cancelled
  | deadlineExceeded
  deriving DecidableEq, Repr, Inhabited

/-- The failure of an operation that was interrupted. -/
def Interruption.error (operation : String) : Interruption → Error
  | cancelled => .cancelled operation
  | deadlineExceeded => .deadlineExceeded operation

/-- Whether a call may be given up once its work has started. -/
inductive Patience where
  | interruptible
  | untilFinished
  deriving DecidableEq, Repr, Inhabited

/-- How a guarded call went. -/
inductive Outcome (ε α : Type) where
  /-- The work was not started. -/
  | refused (cause : Interruption)
  /-- The work was started, and nobody waited for its result. -/
  | abandoned (cause : Interruption)
  /-- The work came to its end. -/
  | finished (result : Except ε α)

/-- The deadline and the cancellation for the external calls of one reconcile. -/
structure Guard where
  /-- The instant from which on no result is waited for. -/
  deadline : Nat
  /-- Whether the token is already cancelled. -/
  cancelled : Bool := false
  /-- The instant at which the token will be cancelled. -/
  cancelAt : Option Nat := none
  deriving DecidableEq, Repr, Inhabited

/-- A moment at which a call is looked at: an instant, before or after the cancellation that may
fall on it. -/
structure Moment where
  instant : Nat
  late : Bool := false
  deriving DecidableEq, Repr, Inhabited

/-- Whether one moment is not after another. -/
def Moment.notAfter (a b : Moment) : Bool :=
  a.instant < b.instant || (a.instant = b.instant && (!a.late || b.late))

/-- When a guarded call ended, and how. -/
inductive CallEnd where
  | refused (cause : Interruption)
  | abandoned (cause : Interruption) (instant : Nat)
  | finished (instant : Nat)
  deriving DecidableEq, Repr, Inhabited

namespace Guard

/-- The last instant that the clock can represent: its seconds are signed integers of 64 bits. -/
def lastInstant : Nat := 9223372036854775807 * 1000 + 999

/-- A guard that starts now, unless its deadline cannot be represented. -/
def start? (now : Nat) (timeout : Delay) : Option Guard :=
  let deadline := now + timeout.millis
  if deadline ≤ lastInstant then some { deadline } else none

/-- Whether the token is cancelled at a moment. -/
def isCancelled (g : Guard) (m : Moment) : Bool :=
  g.cancelled || match g.cancelAt with
    | some instant => instant < m.instant || (instant = m.instant && m.late)
    | none => false

/-- One look at a call whose work ends at the given instant: how the call ends now, if it does. -/
def look (g : Guard) (workEnd : Nat) (m : Moment) : Option CallEnd :=
  if g.isCancelled m then some (.abandoned .cancelled m.instant)
  else if workEnd ≤ m.instant then some (.finished m.instant)
  else if g.deadline ≤ m.instant then some (.abandoned .deadlineExceeded m.instant)
  else none

/-- The moments after the start of a call at which it is looked at again, in their order. -/
def wakeUps (g : Guard) (start workEnd : Nat) : List Moment :=
  let cancellation := match g.cancelAt with
    | some instant => if start ≤ instant then [{ instant, late := true }] else []
    | none => []
  ([{ instant := workEnd }, { instant := max start g.deadline }] ++ cancellation).mergeSort
    Moment.notAfter

/-- A call whose work takes the given time and may be given up at any time. -/
def callInterruptibly (g : Guard) (start duration : Nat) : CallEnd :=
  let workEnd := start + duration
  if g.isCancelled { instant := start } then .refused .cancelled
  else
    (({ instant := start } :: g.wakeUps start workEnd).findSome? (g.look workEnd)).getD
      (.finished workEnd)

/-- A call whose work takes the given time and is waited for once it has started. -/
def callToCompletion (g : Guard) (start duration : Nat) : CallEnd :=
  if g.isCancelled { instant := start } then .refused .cancelled
  else if g.deadline ≤ start then .refused .deadlineExceeded
  else .finished (start + duration)

/-- A call that starts at the given instant and whose work takes the given time. -/
def call (g : Guard) (patience : Patience) (start duration : Nat) : CallEnd :=
  match patience with
  | .interruptible => g.callInterruptibly start duration
  | .untilFinished => g.callToCompletion start duration

end Guard

namespace CallEnd

/-- The instant at which a call that started at `start` has ended. -/
def instant (start : Nat) : CallEnd → Nat
  | refused _ => start
  | abandoned _ instant => instant
  | finished instant => instant

/-- Whether the work of a call was started. -/
def wasStarted : CallEnd → Bool
  | refused _ => false
  | _ => true

/-- How the call went, given the result that its work has when it is waited for. -/
def outcome {ε α : Type} (result : Except ε α) : CallEnd → Outcome ε α
  | refused cause => .refused cause
  | abandoned cause _ => .abandoned cause
  | finished _ => .finished result

end CallEnd

end MachineProvider
