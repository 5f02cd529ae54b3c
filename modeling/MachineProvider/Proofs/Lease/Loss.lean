import MachineProvider.Proofs.Lease.Course
import MachineProvider.Proofs.Lease.Replicas

/-!
# Why a leader gives up

An elector that leads renews its lease round by round, while others use the lease too: they may write
it at any time, also between the question of a round what the lease says and its write. What is asked
and answered in a round is noted, and what others did to the lease in the meantime
(`Tenancy.World`). A leader records that it has lost the lease in three cases. The lease shows another
holder, a round has failed after the deadline, or its write was refused because of another write; and
the last one is no reason at all, as the other write may have left the holder as it was
(`Tenancy.loses_for_cause_iff`).
-/

namespace MachineProvider

open Election Procedure

namespace Election

/-- Whether a write was refused because of another write. -/
def IsConflict : Except ApiFailure Unit → Prop
  | .ok _ => False
  | .error failure => failure.hasCode 409 = true

/-- Whether an answer is true that says that the lease is missing, or that a write comes too late. -/
def IsTruthful (stored : Store Lease) : (q : Question) → Answer q → Prop
  | .now, _ => True
  | .fetch .., answer => ApiAnswer.present answer = .ok none → stored.current = none
  | .create .., reply => IsConflict reply → stored.current ≠ none
  | .replace _ _ lease, reply => IsConflict reply → ¬ stored.Accepts lease

/-- How the API server answers an elector. An answer to a write may get lost on its way, so that the
lease is written and the elector is told of a failure. -/
inductive Responds («namespace» name : String) (wall : Timestamp) (stored after : Store Lease) :
    (q : Question) → Answer q → Prop
  | served {q : Question} {a : Answer q} (served : Serves «namespace» name wall stored after q a)
    (truthful : IsTruthful stored q a) : Responds «namespace» name wall stored after q a
  | lostCreation {ns nm : String} {lease : Lease} {failure : ApiFailure}
    (served : Serves «namespace» name wall stored after (.create ns nm lease) (.ok ()))
    (other : ¬ IsConflict (.error failure)) :
    Responds «namespace» name wall stored after (.create ns nm lease) (.error failure)
  | lostReplacement {ns nm : String} {lease : Lease} {failure : ApiFailure}
    (served : Serves «namespace» name wall stored after (.replace ns nm lease) (.ok ()))
    (other : ¬ IsConflict (.error failure)) :
    Responds «namespace» name wall stored after (.replace ns nm lease) (.error failure)

end Election

namespace Tenancy

/-- What was asked and answered, and what the lease was after each thing that others did to it since
the question before, the last one first. -/
structure Note where
  exchange : Exchange
  meanwhile : List (Option Lease)

/-- The lease, the clock and an elector. -/
structure World where
  /-- Milliseconds of the monotonic clock. -/
  clock : Nat
  store : Store Lease
  stage : Stage
  /-- When a round of the elector last succeeded. -/
  succeeded : Option Nat
  /-- What was asked and answered in the last round, the last question first. -/
  heard : List Note
  /-- What the lease was after each thing that others did to it since the elector was last
  answered. -/
  meanwhile : List (Option Lease)

/-- How things may begin: the elector takes no part yet, and there may be any lease. -/
structure World.Begins (w : World) : Prop where
  stage : w.stage = .idle
  succeeded : w.succeeded = none
  heard : w.heard = []
  meanwhile : w.meanwhile = []

/-- Whether a round begins in a stage at an instant. -/
inductive Opens (instant : Nat) : Stage → Purpose → Prop
  | enters : Opens instant .idle .acquire
  | retries {due : Nat} (isDue : due ≤ instant) : Opens instant (.waiting due) .acquire
  | renews {lastRenewed due : Nat} (isDue : due ≤ instant) :
    Opens instant (.leading lastRenewed due) (.renew lastRenewed)

variable (e : Elector)

/-- What happens next. -/
inductive Step : World → World → Prop
  /-- Time passes. -/
  | passes {w : World} {later : Nat} (forward : w.clock ≤ later) :
    Step w { w with clock := later }
  /-- Others write or remove the lease; or the elector does that has let go of its leadership. -/
  | meddles {w : World} {after : Store Lease} :
    Step w { w with store := after, meanwhile := after.current :: w.meanwhile }
  /-- The elector begins a round. -/
  | begins {w : World} {purpose : Purpose} (opens : Opens w.clock w.stage purpose) :
    Step w { w with stage := .inRound purpose e.round, heard := [], meanwhile := [] }
  /-- The elector is answered. -/
  | asks {w : World} {purpose : Purpose} {q : Question} {next : Answer q → Election Round}
    {a : Answer q} {wall : Timestamp} {after : Store Lease}
    (asking : w.stage = .inRound purpose (.ask q next))
    (response : Responds e.namespace e.leaseName wall w.store after q a) :
    Step w { w with
      store := after
      stage := .inRound purpose (next a)
      heard := ⟨⟨q, a⟩, w.meanwhile⟩ :: w.heard
      meanwhile := [] }
  /-- The round ends. -/
  | ends {w : World} {purpose : Purpose} {result : Round}
    (finished : w.stage = .inRound purpose (.done result)) :
    Step w { w with
      stage := Stage.afterRound e w.clock result purpose
      succeeded := if result = .held then some w.clock else w.succeeded }
  /-- The elector is told to shut down. -/
  | shutsDown {w : World} : Step w { w with stage := w.stage.shutDown }
  /-- The elector lets go of its leadership. -/
  | leaves {w : World} (held : w.stage.HoldsGuard) : Step w { w with stage := .idle }

/-- Whether a run leads to a world. -/
def Reachable (w : World) : Prop :=
  ∃ start : World, start.Begins ∧ Relation.ReflTransGen (Step e) start w

end Tenancy

namespace Election

namespace Exchange

/-- Whether a write was refused because of another write. -/
def IsRefusal : Exchange → Prop
  | ⟨.create .., reply⟩ => IsConflict reply
  | ⟨.replace .., reply⟩ => IsConflict reply
  | _ => False

theorem lease?_of_isRefusal {x : Exchange} (refused : x.IsRefusal) : x.lease? = none := by
  obtain ⟨question, answer⟩ := x
  cases question with
  | fetch => cases refused
  | _ => rfl

/-- What a read says about the lease that is stored. -/
def Tells (stored : Store Lease) : Exchange → Prop
  | ⟨.fetch .., answer⟩ =>
    (∀ lease, answer = .ok lease → stored.current = some lease) ∧
      (ApiAnswer.present answer = .ok none → stored.current = none)
  | _ => True

/-- Whether a write goes by what was read before: a lease is made when there was none, and is written
over the version that was read. -/
def RestsOn : Exchange → Exchange → Prop
  | ⟨.create .., _⟩, ⟨.fetch .., answer⟩ => ApiAnswer.present answer = .ok none
  | ⟨.replace _ _ written, _⟩, ⟨.fetch .., .ok lease⟩ => version written = version lease
  | _, _ => False

end Exchange

section Responses

variable {«namespace» name : String} {wall : Timestamp} {stored after : Store Lease} {q : Question}
  {a : Answer q}

/-- What is read is what is stored. -/
theorem Responds.tells (response : Responds «namespace» name wall stored after q a) :
    Exchange.Tells after ⟨q, a⟩ := by
  cases response with
  | lostCreation => trivial
  | lostReplacement => trivial
  | served served truthful =>
      cases q with
      | now => trivial
      | create => trivial
      | replace => trivial
      | fetch n nm =>
          cases a with
          | ok lease =>
              obtain ⟨-, -, current, rfl⟩ := served
              constructor
              · rintro _ ⟨⟩
                exact current
              · rintro ⟨⟩
          | error failure =>
              obtain rfl : after = stored := served
              constructor
              · rintro _ ⟨⟩
              · exact truthful

/-- A write is refused only when the lease is no longer what it was when it was read. -/
theorem Responds.not_tells {read : Exchange}
    (response : Responds «namespace» name wall stored after q a)
    (refused : Exchange.IsRefusal ⟨q, a⟩) (rests : Exchange.RestsOn ⟨q, a⟩ read) :
    ¬ read.Tells stored := by
  intro tells
  cases response with
  | lostCreation _ other => exact other refused
  | lostReplacement _ other => exact other refused
  | served served truthful =>
      cases q with
      | now => exact refused
      | fetch n nm => exact refused
      | create n nm lease =>
          obtain ⟨question, answer⟩ := read
          cases question with
          | fetch => exact truthful refused (tells.2 rests)
          | _ => exact rests
      | replace n nm written =>
          obtain ⟨question, answer⟩ := read
          cases question with
          | fetch =>
              cases answer with
              | error failure => exact rests
              | ok lease =>
                  apply truthful refused
                  exact ⟨lease, tells.1 lease rfl, .inr rests⟩
          | _ => exact rests

end Responses

end Election

namespace Elector

open Election

/-- Why a round ends as it does. -/
inductive Concluded (e : Elector) : Round → List Exchange → Prop
  | held {heard : List Exchange} : Concluded e .held heard
  | crashed {heard : List Exchange} : Concluded e .crashed heard
  /-- Something went wrong, and that is not known to be another write. -/
  | failed {cause : Error} {last : Exchange} {earlier : List Exchange}
    (other : ¬ last.IsRefusal) : Concluded e (.failed cause) (last :: earlier)
  /-- Somebody else holds the lease. -/
  | shown {last : Exchange} {earlier : List Exchange} {lease : Lease}
    (read : last.lease? = some lease) (other : Lease.IsHeldByOther e.identity lease.spec)
    (unrefused : ¬ last.IsRefusal) : Concluded e .notHeld (last :: earlier)
  /-- The write that went by a read was refused. -/
  | refused {write read : Exchange} {now : Timestamp} (refused : write.IsRefusal)
    (rests : write.RestsOn read) : Concluded e .notHeld [write, read, ⟨.now, now⟩]

variable {e : Elector}

theorem concluded_of_write {write read : Exchange} {now : Timestamp} {reply : Except ApiFailure Unit}
    (refusal : write.IsRefusal ↔ IsConflict reply) (rests : write.RestsOn read) :
    e.Concluded (roundOfWrite reply) [write, read, ⟨.now, now⟩] := by
  cases reply with
  | ok written => exact .held
  | error failure =>
      simp only [roundOfWrite]
      split
      next conflict => exact .refused (refusal.mpr conflict) rests
      next other => exact .failed (fun refused => other (refusal.mp refused))

theorem Goes.concluded {result : Round} {heard : List Exchange} (goes : e.Goes result heard) :
    e.Concluded result heard := by
  cases goes with
  | unnamed => exact .failed id
  | unread => exact .failed id
  | crashes => exact .crashed
  | creates missing => exact concluded_of_write Iff.rfl missing
  | waits decided => exact .shown rfl (Lease.isHeldByOther_of_wait decided) id
  | renews => exact concluded_of_write Iff.rfl rfl
  | takes => exact concluded_of_write Iff.rfl rfl

end Elector

namespace Election

/-- When a round last succeeded, for a replica that leads. -/
def Purpose.lastRenewed? : Purpose → Option Nat
  | acquire => none
  | renew lastRenewed => some lastRenewed
  | conclude lastRenewed => some lastRenewed

/-- When a round last succeeded, as a stage that renews a lease has it. -/
def Stage.lastRenewed? : Stage → Option Nat
  | leading lastRenewed _ => some lastRenewed
  | inRound purpose _ => purpose.lastRenewed?
  | _ => none

namespace Stage

theorem lastRenewed?_shutDown {stage : Stage} {lastRenewed : Nat}
    (renews : stage.shutDown.lastRenewed? = some lastRenewed) :
    stage.lastRenewed? = some lastRenewed := by
  cases stage with
  | inRound purpose rest => cases purpose <;> exact renews
  | _ => cases renews

/-- A round goes on when the replica is told to shut down. -/
theorem exists_inRound_of_shutDown {stage : Stage} {purpose : Purpose} {rest : Election Round}
    (goesOn : stage.shutDown = .inRound purpose rest) :
    ∃ purpose', stage = .inRound purpose' rest := by
  cases stage with
  | inRound purpose' rest' =>
      refine ⟨purpose', ?_⟩
      cases purpose' <;> cases goesOn <;> rfl
  | _ => cases goesOn

variable {e : Elector} {instant : Nat} {result : Round} {purpose : Purpose}

theorem afterRound_ne_inRound {purpose' : Purpose} {rest : Election Round} :
    afterRound e instant result purpose ≠ .inRound purpose' rest := by
  cases purpose with
  | acquire => cases result <;> simp [afterRound]
  | renew lastRenewed =>
      simp only [afterRound]
      split <;> simp
  | conclude lastRenewed =>
      simp only [afterRound]
      split <;> simp

/-- A replica that leads after a round leads since this round, if it was a success, or goes on to do
so. -/
theorem lastRenewed?_afterRound {renewed : Nat}
    (leads : (afterRound e instant result purpose).lastRenewed? = some renewed) :
    if result = .held then renewed = instant else purpose.lastRenewed? = some renewed := by
  cases purpose with
  | acquire => cases result <;> simp_all [afterRound, lastRenewed?]
  | renew lastRenewed =>
      cases result with
      | failed cause =>
          by_cases early : instant - lastRenewed < e.renewDeadline.millis <;>
            simp_all [afterRound, Renewal.after, lastRenewed?, Purpose.lastRenewed?]
      | _ => simp_all [afterRound, Renewal.after, lastRenewed?]
  | conclude lastRenewed =>
      simp only [afterRound] at leads
      split at leads <;> cases leads

end Stage

end Election

namespace Tenancy

variable (e : Elector) (w : World)

namespace World

/-- Everything that was asked and answered in the last round. -/
def exchanges : List Exchange :=
  w.heard.map Note.exchange

/-- Whether what is noted is what happened. -/
structure IsSound : Prop where
  course : ∀ purpose rest, w.stage = .inRound purpose rest →
    rest.Follows transcript e.Goes w.exchanges
  renewed : ∀ lastRenewed, w.stage.lastRenewed? = some lastRenewed →
    w.succeeded = some lastRenewed
  tells : ∀ last earlier, w.heard = last :: earlier → w.meanwhile = [] →
    last.exchange.Tells w.store
  meddled : ∀ write read earlier, w.heard = write :: read :: earlier →
    write.exchange.IsRefusal → write.exchange.RestsOn read.exchange → write.meanwhile ≠ []

end World

variable {e w} {w' : World}

theorem World.Begins.isSound (begins : w.Begins) : w.IsSound e where
  course purpose rest stage := by
    rw [begins.stage] at stage
    cases stage
  renewed lastRenewed stage := by
    rw [begins.stage] at stage
    cases stage
  tells last earlier heard := by
    rw [begins.heard] at heard
    cases heard
  meddled write read earlier heard := by
    rw [begins.heard] at heard
    cases heard

theorem Opens.lastRenewed? {instant : Nat} {stage : Stage} {purpose : Purpose}
    (opens : Opens instant stage purpose) : purpose.lastRenewed? = stage.lastRenewed? := by
  cases opens <;> rfl

/-- What is noted is still what happened after another step. -/
theorem World.IsSound.step (sound : w.IsSound e) (step : Step e w w') : w'.IsSound e := by
  cases step with
  | passes => exact { sound with }
  | meddles =>
      refine { sound with tells := ?_ }
      rintro last earlier - ⟨⟩
  | begins opens =>
      constructor
      · rintro purpose rest ⟨⟩
        exact Elector.goes_round
      · intro lastRenewed renews
        exact sound.renewed lastRenewed (opens.lastRenewed? ▸ renews)
      · rintro last earlier ⟨⟩
      · rintro write read earlier ⟨⟩
  | asks asking response =>
      constructor
      · rintro purpose rest ⟨⟩
        exact (sound.course _ _ asking).2 _ trivial
      · intro lastRenewed renews
        exact sound.renewed lastRenewed (asking ▸ renews)
      · rintro last earlier ⟨⟩ -
        exact response.tells
      · rintro write read earlier heard refused rests quiet
        -- Had others done nothing in between, what was read would still be stored.
        obtain ⟨rfl, before⟩ := List.cons.inj heard
        exact response.not_tells refused rests (sound.tells read earlier before quiet)
  | ends finished =>
      refine { sound with course := ?_, renewed := ?_ }
      · intro purpose rest goesOn
        exact absurd goesOn Stage.afterRound_ne_inRound
      · intro lastRenewed leads
        have since := Stage.lastRenewed?_afterRound leads
        split at since
        next held => simp [held, since]
        next other =>
          rw [if_neg other]
          exact sound.renewed lastRenewed (finished ▸ since)
  | shutsDown =>
      refine { sound with course := ?_, renewed := ?_ }
      · intro purpose rest goesOn
        obtain ⟨purpose', stage⟩ := Stage.exists_inRound_of_shutDown goesOn
        exact sound.course purpose' rest stage
      · intro lastRenewed renews
        exact sound.renewed lastRenewed (Stage.lastRenewed?_shutDown renews)
  | leaves =>
      refine { sound with course := ?_, renewed := ?_ }
      · rintro purpose rest ⟨⟩
      · rintro lastRenewed ⟨⟩

theorem Reachable.isSound (reached : Reachable e w) : w.IsSound e := by
  obtain ⟨start, begins, steps⟩ := reached
  induction steps with
  | refl => exact begins.isSound
  | tail _ step sound => exact sound.step step

namespace World

variable (e w)

/-- Whether the elector, which leads, is about to record that it has lost the lease. -/
inductive Loses : Prop
  | of {purpose : Purpose} {lastRenewed : Nat} {result : Round}
    (stage : w.stage = .inRound purpose (.done result))
    (leads : purpose.lastRenewed? = some lastRenewed)
    (lost : Renewal.after e lastRenewed w.clock result = .lost)

/-- Whether the lease showed another holder when it was last read. -/
def ShowsOther : Prop :=
  ∃ lease ∈ w.exchanges.filterMap Exchange.lease?, Lease.IsHeldByOther e.identity lease.spec

/-- Whether the last round has failed, and the deadline after the last one that succeeded has
passed. -/
def IsOverdue : Prop :=
  ∃ purpose cause renewed, w.stage = .inRound purpose (.done (.failed cause)) ∧
    w.succeeded = some renewed ∧ e.renewDeadline.millis ≤ w.clock - renewed

/-- Whether the write of the last round was refused because others did something to the lease after it
was read, though it did not show another holder. -/
def IsOvertaken : Prop :=
  ∃ write read earlier, w.heard = write :: read :: earlier ∧ write.exchange.IsRefusal ∧
    write.meanwhile ≠ [] ∧
      ∀ lease, read.exchange.lease? = some lease → ¬ Lease.IsHeldByOther e.identity lease.spec

end World

/-- What was overtaken was a write. -/
theorem not_isOvertaken {last : Exchange} {earlier : List Exchange}
    (exchanges : w.exchanges = last :: earlier) (other : ¬ last.IsRefusal) : ¬ w.IsOvertaken e := by
  rintro ⟨write, read, rest, heard, refused, -⟩
  rw [World.exchanges, heard, List.map_cons, List.cons.injEq] at exchanges
  exact other (exchanges.1 ▸ refused)

/-- A round whose write was refused was overtaken exactly when its read did not show another holder. -/
theorem isOvertaken_iff {write read : Exchange} {now : Timestamp} (sound : w.IsSound e)
    (exchanges : w.exchanges = [write, read, ⟨.now, now⟩]) (refused : write.IsRefusal)
    (rests : write.RestsOn read) : w.IsOvertaken e ↔ ¬ w.ShowsOther e := by
  obtain ⟨first, _, heard, rfl, more⟩ := List.map_eq_cons_iff.mp exchanges
  obtain ⟨second, rest, rfl, rfl, -⟩ := List.map_eq_cons_iff.mp more
  have shows_iff : w.ShowsOther e ↔ ∃ lease, second.exchange.lease? = some lease ∧
      Lease.IsHeldByOther e.identity lease.spec := by
    constructor
    · rintro ⟨lease, member, other⟩
      obtain ⟨x, heard, shown⟩ := List.mem_filterMap.mp member
      rw [exchanges] at heard
      simp only [List.mem_cons, List.not_mem_nil, or_false] at heard
      rcases heard with rfl | rfl | rfl
      · rw [Exchange.lease?_of_isRefusal refused] at shown
        cases shown
      · exact ⟨lease, shown, other⟩
      · cases shown
    · rintro ⟨lease, shown, other⟩
      refine ⟨lease, List.mem_filterMap.mpr ⟨second.exchange, ?_, shown⟩, other⟩
      simp [exchanges]
  simp only [shows_iff, not_exists, not_and]
  constructor
  · rintro ⟨write, read, earlier, heard', -, -, unshown⟩
    rw [heard, List.cons.injEq, List.cons.injEq] at heard'
    obtain ⟨-, rfl, -⟩ := heard'
    exact unshown
  · intro unshown
    exact ⟨first, second, rest, heard, refused, sound.meddled _ _ _ heard refused rests, unshown⟩

/-- A leader records that it has lost the lease because the lease shows another holder, or because a
round has failed after the deadline, in all cases but one: when somebody else has written the lease
between the read of a round and its write. -/
theorem loses_for_cause_iff (reached : Reachable e w) (loses : w.Loses e) :
    w.ShowsOther e ∨ w.IsOverdue e ↔ ¬ w.IsOvertaken e := by
  obtain @⟨purpose, lastRenewed, result, stage, leads, lost⟩ := loses
  have sound := reached.isSound
  have goes : e.Goes result w.exchanges := sound.course purpose _ stage
  have concluded := goes.concluded
  generalize exchanges : w.exchanges = heard at concluded
  cases concluded with
  | held => cases lost
  | crashed => cases lost
  | failed other =>
      refine iff_of_true (.inr ?_) (not_isOvertaken exchanges other)
      refine ⟨purpose, _, lastRenewed, stage, sound.renewed _ (stage ▸ leads), ?_⟩
      by_contra early
      rw [Renewal.after, if_pos (not_le.mp early)] at lost
      cases lost
  | shown read other unrefused =>
      refine iff_of_true (.inl ?_) (not_isOvertaken exchanges unrefused)
      refine ⟨_, ?_, other⟩
      rw [exchanges]
      exact List.mem_filterMap.mpr ⟨_, List.mem_cons_self, read⟩
  | refused refused rests =>
      -- Such a round is not counted as a failure, so the deadline has no part in it.
      have punctual : ¬ w.IsOverdue e := by
        rintro ⟨_, _, _, failed, -⟩
        rw [stage] at failed
        cases failed
      rw [isOvertaken_iff sound exchanges refused rests, not_not]
      exact or_iff_left punctual

/-- An elector with the timings that leases have by default. -/
def podA : Elector where
  leaseName := "capdc"
  «namespace» := "default"
  identity := "pod-a"
  leaseDuration := .ofSeconds 15
  renewDeadline := .ofSeconds 10
  retryPeriod := .ofSeconds 2

/-- A leader that renews its lease in time records that it has lost the lease when somebody has put an
annotation on the lease between the read and the write of its first renewal. -/
theorem loses_without_cause_of_podA :
    ∃ w lease annotated, Reachable podA w ∧ w.Loses podA ∧
      (w.heard.map Note.meanwhile = [[some annotated], [], []] ∧
        annotated.spec = lease.spec ∧ w.exchanges.filterMap Exchange.lease? = [lease]) ∧
      ¬ w.ShowsOther podA ∧ ¬ w.IsOverdue podA := by
  let start : World := ⟨0, .empty, .idle, none, [], []⟩
  let made : Lease :=
    { podA.newLease (.ofMicros 0) with metadata := { resourceVersion := some "1" } }
  let annotated : Lease :=
    { made with metadata :=
      { resourceVersion := some "2", annotations := some (.ofList [("note", "seen")]) } }
  have reading (micros : Int) (stored : Store Lease) :
      Responds "default" "capdc" (.ofMicros micros) stored stored .now (.ofMicros micros) :=
    .served ⟨rfl, rfl⟩ trivial
  have missing : Responds "default" "capdc" (.ofMicros 0) .empty .empty (.fetch "default" "capdc")
      (.error (.refused "not found" "NotFound" 404)) := .served rfl fun _ => rfl
  have created : Responds "default" "capdc" (.ofMicros 0) .empty (Store.empty.put made)
      (.create "default" "capdc" (podA.newLease (.ofMicros 0))) (.ok ()) :=
    .served ⟨rfl, rfl, rfl, made, .empty rfl, rfl, rfl⟩ False.elim
  have read : Responds "default" "capdc" (.ofMicros 2000000) (Store.empty.put made)
      (Store.empty.put made) (.fetch "default" "capdc") (.ok made) :=
    .served ⟨rfl, rfl, rfl, rfl⟩ nofun
  have stale : ¬ ((Store.empty.put made).put annotated).Accepts
      (Elector.renewed made (.ofMicros 2000000)) := by
    rintro ⟨current, ⟨⟩, unset | same⟩
    · exact absurd unset (by decide)
    · exact absurd same (by decide)
  have refused : Responds "default" "capdc" (.ofMicros 2000000)
      ((Store.empty.put made).put annotated) ((Store.empty.put made).put annotated)
      (.replace "default" "capdc" (Elector.renewed made (.ofMicros 2000000)))
      (.error (.refused "the object has been modified" "Conflict" 409)) :=
    .served rfl fun _ => stale
  have w1 := (Relation.ReflTransGen.refl (r := Step podA) (a := start)).tail (.begins .enters)
  have w2 := w1.tail (.asks rfl (reading 0 _))
  have w3 := w2.tail (.asks rfl missing)
  have w4 := w3.tail (.asks rfl created)
  have w5 := w4.tail (.ends rfl)
  have w6 := w5.tail (.passes (show 0 ≤ 2000 by decide))
  have w7 := w6.tail (.begins (.renews (le_refl 2000)))
  have w8 := w7.tail (.asks rfl (reading 2000000 _))
  have w9 := w8.tail (.asks rfl read)
  have w10 := w9.tail (@Step.meddles podA _ ((Store.empty.put made).put annotated))
  have w11 := w10.tail (.asks rfl refused)
  have reached : Reachable podA _ := ⟨start, ⟨rfl, rfl, rfl, rfl⟩, w11⟩
  have exact_iff := loses_for_cause_iff reached (.of rfl rfl rfl)
  refine ⟨_, made, annotated, reached, .of rfl rfl rfl, ⟨rfl, rfl, rfl⟩, ?_⟩
  rw [← not_or, exact_iff, not_not]
  refine ⟨_, _, _, rfl, rfl, nofun, ?_⟩
  rintro _ ⟨⟩ ⟨holder, held, other⟩
  exact other (Option.some.inj held).symm

end Tenancy

end MachineProvider
