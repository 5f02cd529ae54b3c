import MachineProvider.Simulation.Replica
import Mathlib.Logic.Relation

/-!
# How a leader keeps its lease

A leader renews its lease in the background. It waits, goes through a round, and waits again, until a
round means that the lease is lost, or until it is told to shut down while it waits. Here the rounds
take as long as they take and come to whatever they come to, and the leader may be told to shut down,
or may let go of its leadership, at any time. What the rounds came to is noted, and
`Upkeep.Reachable.isKept` says what that has to do with whether the leader has lost its lease. The
background of a simulated replica is a run of this kind (`Simulation.Replica.isRun_runBefore`).
-/

namespace MachineProvider

open Election

namespace Upkeep

/-- When the next round of an elector that is done with a round is due. -/
def nextRound (e : Elector) (instant : Nat) : Nat :=
  instant + Simulation.pause instant e.retryPeriod.seconds

/-- A leader and the clock. -/
structure World where
  /-- Milliseconds of the monotonic clock. -/
  clock : Nat
  /-- Whether the process was told to shut down. -/
  shutdown : Bool
  leadership : Leadership
  /-- Whether a round is under way. -/
  inRound : Bool
  /-- Whether the leader has let go of its leadership. -/
  letGo : Bool
  /-- What the rounds came to and when they ended, the last one first. -/
  rounds : List (Round × Nat)

namespace World

/-- The world in which a replica has become the leader. -/
def start (e : Elector) (clock : Nat) (shutdown : Bool) : World where
  clock
  shutdown
  leadership := .begun shutdown clock (nextRound e clock)
  inRound := false
  letGo := false
  rounds := []

variable (w : World)

/-- The world after the process was told to shut down. A round that is under way goes on, and a pause
does not. -/
def shutDown : World :=
  { w with
    shutdown := true
    leadership := if w.inRound then w.leadership else w.leadership.halted }

/-- The world after a round, which tells the process to shut down when the lease is lost. -/
def afterRound (e : Elector) (lastRenewed : Nat) (result : Round) : World :=
  let leadership := w.leadership.afterRound e lastRenewed w.clock (nextRound e w.clock) result
  let shutdown := w.shutdown || leadership.lost
  { w with
    shutdown
    leadership := if shutdown then leadership.halted else leadership
    inRound := false
    rounds := (result, w.clock) :: w.rounds }

/-- The world after the leader has let go of its leadership, which breaks a round off. -/
def abandon : World :=
  { w with leadership := w.leadership.halted, inRound := false, letGo := true }

end World

variable (e : Elector)

/-- What happens next. -/
inductive Step : World → World → Prop
  | passes {w : World} {later : Nat} (forward : w.clock ≤ later) :
    Step w { w with clock := later }
  | begins {w : World} {lastRenewed due : Nat} (idle : w.inRound = false)
    (next : w.leadership.next = some (lastRenewed, due)) (isDue : due ≤ w.clock) :
    Step w { w with inRound := true }
  | ends {w : World} {lastRenewed due : Nat} (result : Round) (busy : w.inRound = true)
    (next : w.leadership.next = some (lastRenewed, due)) :
    Step w (w.afterRound e lastRenewed result)
  /-- Somebody else tells the process to shut down. -/
  | shutsDown {w : World} : Step w w.shutDown
  | abandons {w : World} : Step w w.abandon

/-- Whether a run of a replica that became the leader at an instant leads to a world. -/
def Reachable (begun : Nat) (w : World) : Prop :=
  ∃ shutdown, Relation.ReflTransGen (Step e) (World.start e begun shutdown) w

/-- When the last round that succeeded has ended. -/
def lastSuccess (begun : Nat) : List (Round × Nat) → Nat
  | [] => begun
  | (.held, ended) :: _ => ended
  | _ :: earlier => lastSuccess begun earlier

/-- When the last round has ended. -/
def lastEnd (begun : Nat) : List (Round × Nat) → Nat
  | [] => begun
  | (_, ended) :: _ => ended

/-- Whether a round that ended at an instant means that the lease is lost, when the last success
before it was at another one. -/
inductive Loses (lastSuccess ended : Nat) : Round → Prop
  | notHeld : Loses lastSuccess ended .notHeld
  | overdue {cause : Error} (late : e.renewDeadline.millis ≤ ended - lastSuccess) :
    Loses lastSuccess ended (.failed cause)

/-- What the rounds of a leader have to do with whether it has lost its lease. -/
structure IsKept (begun : Nat) (w : World) : Prop where
  /-- The lease is lost when the last round means that it is, and never otherwise. -/
  lost_iff : w.leadership.lost = true ↔ ∃ result ended earlier,
    w.rounds = (result, ended) :: earlier ∧ Loses e (lastSuccess begun earlier) ended result
  /-- There is no round after one that means that the lease is lost. -/
  first : ∀ later result ended earlier, w.rounds = later ++ (result, ended) :: earlier →
    Loses e (lastSuccess begun earlier) ended result → later = []
  /-- The loss is recorded when such a round ends, and the process is told to shut down then. -/
  recorded : ∀ w', Step e w w' → w'.leadership.lost ≠ w.leadership.lost →
    ∃ result, Loses e (lastSuccess begun w.rounds) w.clock result ∧
      w'.rounds = (result, w.clock) :: w.rounds ∧ w'.shutdown = true
  /-- Nobody but others and the loss of the lease tell the process to shut down. -/
  cancels : ∀ w', Step e w w' → w'.shutdown ≠ w.shutdown →
    w' = w.shutDown ∨ w'.leadership.lost ≠ w.leadership.lost
  /-- No round begins after the process was told to shut down during a pause. -/
  stops : w.shutdown = true → w.inRound = false → ∀ w', Relation.ReflTransGen (Step e) w w' →
    w'.rounds = w.rounds ∧ w'.leadership.lost = w.leadership.lost
  /-- Otherwise another round is under way or due, whatever the rounds came to. -/
  goesOn : w.leadership.lost = false → w.shutdown = false → w.letGo = false →
    (∀ round ∈ w.rounds, round.1 ≠ .crashed) →
      w.leadership.next = some (lastSuccess begun w.rounds, nextRound e (lastEnd begun w.rounds))
  /-- A leader that has lost its lease lets go of its leadership without asking for the lease. -/
  leaves : w.leadership.lost = true → w.leadership.release e = .done ()

end Upkeep

namespace Leadership

@[simp] theorem lost_halted (l : Leadership) : l.halted.lost = l.lost := rfl

@[simp] theorem next_halted (l : Leadership) : l.halted.next = none := rfl

end Leadership

namespace Upkeep

section Rounds

variable {e : Elector} {begun lastRenewed renewed ended due : Nat} {result : Round}
  {earlier : List (Round × Nat)} {l : Leadership}

/-- A round means that the lease is lost in these cases and in no others. -/
theorem after_eq_lost_iff :
    Renewal.after e lastRenewed ended result = .lost ↔ Loses e lastRenewed ended result := by
  constructor
  · intro lost
    cases result with
    | notHeld => exact .notHeld
    | failed cause =>
        by_cases early : ended - lastRenewed < e.renewDeadline.millis
        · simp [Renewal.after, early] at lost
        · exact .overdue (Nat.not_lt.mp early)
    | held => cases lost
    | crashed => cases lost
  · intro loses
    cases loses with
    | notHeld => rfl
    | overdue late => exact if_neg (Nat.not_lt.mpr late)

/-- A leader that goes on after a round counts from the last round that succeeded. -/
theorem eq_lastSuccess
    (leads : Renewal.after e (lastSuccess begun earlier) ended result = .leading renewed) :
    renewed = lastSuccess begun ((result, ended) :: earlier) := by
  cases result with
  | held => exact (Renewal.leading.inj leads).symm
  | failed cause =>
      by_cases early : ended - lastSuccess begun earlier < e.renewDeadline.millis
      · simp only [Renewal.after, early, if_true, Renewal.leading.injEq] at leads
        exact leads.symm
      · simp [Renewal.after, early] at leads
  | notHeld => cases leads
  | crashed => cases leads

/-- Only a crash keeps a leader that has not lost its lease from going on. -/
theorem after_eq_stopped (stops : Renewal.after e lastRenewed ended result = .stopped) :
    result = .crashed := by
  cases result with
  | crashed => rfl
  | failed cause =>
      by_cases early : ended - lastRenewed < e.renewDeadline.millis <;>
        simp [Renewal.after, early] at stops
  | held => cases stops
  | notHeld => cases stops

theorem lost_afterRound (kept : l.lost = false) :
    (l.afterRound e lastRenewed ended due result).lost = true ↔
      Loses e lastRenewed ended result := by
  rw [← after_eq_lost_iff]
  unfold Leadership.afterRound
  cases Renewal.after e lastRenewed ended result with
  | lost => exact iff_of_true rfl rfl
  | leading => simp [kept]
  | stopped => simp [Leadership.halted, kept]

/-- A leader that has lost its lease has no next round. -/
theorem halted_afterRound (kept : l.lost = false)
    (lost : (l.afterRound e lastRenewed ended due result).lost = true) :
    (l.afterRound e lastRenewed ended due result).halted =
      l.afterRound e lastRenewed ended due result := by
  unfold Leadership.afterRound at lost ⊢
  cases outcome : Renewal.after e lastRenewed ended result with
  | leading renewed => simp [outcome, kept] at lost
  | lost => rfl
  | stopped => rfl

/-- The next round is due when it is said to be. -/
theorem due_of_next_afterRound {last next : Nat}
    (goesOn : (l.afterRound e lastRenewed ended due result).next = some (last, next)) :
    Renewal.after e lastRenewed ended result = .leading last ∧ next = due := by
  unfold Leadership.afterRound at goesOn
  cases outcome : Renewal.after e lastRenewed ended result with
  | leading renewed =>
      rw [outcome] at goesOn
      cases goesOn
      exact ⟨rfl, rfl⟩
  | lost =>
      rw [outcome] at goesOn
      cases goesOn
  | stopped =>
      rw [outcome] at goesOn
      cases goesOn

theorem next_afterRound {last next : Nat}
    (goesOn : (l.afterRound e (lastSuccess begun earlier) ended due result).next =
      some (last, next)) :
    last = lastSuccess begun ((result, ended) :: earlier) ∧ next = due := by
  obtain ⟨leads, isDue⟩ := due_of_next_afterRound goesOn
  exact ⟨eq_lastSuccess leads, isDue⟩

/-- A leader that does not lose its lease has another round, unless the round has crashed. -/
theorem isSome_next_afterRound (kept : (l.afterRound e lastRenewed ended due result).lost = false)
    (intact : result ≠ .crashed) :
    ∃ renewed, (l.afterRound e lastRenewed ended due result).next = some (renewed, due) := by
  unfold Leadership.afterRound at kept ⊢
  cases outcome : Renewal.after e lastRenewed ended result with
  | leading renewed => exact ⟨renewed, rfl⟩
  | lost =>
      rw [outcome] at kept
      cases kept
  | stopped => exact absurd (after_eq_stopped outcome) intact

end Rounds

variable (e : Elector)

/-- What a leader goes by, whatever happens. -/
structure IsSound (begun : Nat) (w : World) : Prop where
  /-- The next round is due a pause after the last one, and the deadline counts from the last
  success. -/
  next : ∀ last due, w.leadership.next = some (last, due) →
    last = lastSuccess begun w.rounds ∧ due = nextRound e (lastEnd begun w.rounds)
  /-- There is no next round for a leader that has lost its lease. -/
  ended : w.leadership.lost = true → w.leadership.next = none
  told : w.leadership.lost = true → w.shutdown = true
  /-- There is no next round after a pause during which the process was told to shut down. -/
  halted : w.shutdown = true → w.inRound = false → w.leadership.next = none
  lost_iff : w.leadership.lost = true ↔ ∃ result ended earlier,
    w.rounds = (result, ended) :: earlier ∧ Loses e (lastSuccess begun earlier) ended result
  first : ∀ later result ended earlier, w.rounds = later ++ (result, ended) :: earlier →
    Loses e (lastSuccess begun earlier) ended result → later = []
  goesOn : w.leadership.lost = false → w.shutdown = false → w.letGo = false →
    (∀ round ∈ w.rounds, round.1 ≠ .crashed) → ∃ last due, w.leadership.next = some (last, due)

variable {e} {begun : Nat} {w w' : World}

theorem isSound_start (clock : Nat) (shutdown : Bool) :
    IsSound e clock (World.start e clock shutdown) where
  next last due goesOn := by
    cases shutdown with
    | false =>
        cases goesOn
        exact ⟨rfl, rfl⟩
    | true => cases goesOn
  ended lost := nomatch lost
  told lost := nomatch lost
  halted told _ := by
    obtain rfl : shutdown = true := told
    rfl
  lost_iff := by
    constructor
    · intro lost
      cases lost
    · rintro ⟨result, ended, earlier, rounds, -⟩
      cases rounds
  first later result ended earlier rounds _ := by
    simp [World.start] at rounds
  goesOn _ stays _ _ := by
    obtain rfl : shutdown = false := stays
    exact ⟨clock, nextRound e clock, rfl⟩

namespace World

variable {lastRenewed : Nat} {result : Round}

/-- A round tells the process to shut down only when it means that the lease is lost. -/
theorem shutdown_afterRound : (w.afterRound e lastRenewed result).shutdown =
    (w.shutdown || (w.afterRound e lastRenewed result).leadership.lost) := by
  simp only [afterRound]
  split <;> rfl

theorem lost_afterRound : (w.afterRound e lastRenewed result).leadership.lost =
    (w.leadership.afterRound e lastRenewed w.clock (nextRound e w.clock) result).lost := by
  simp only [afterRound]
  split <;> rfl

theorem next_afterRound : (w.afterRound e lastRenewed result).leadership.next =
    if (w.afterRound e lastRenewed result).shutdown then none
    else (w.leadership.afterRound e lastRenewed w.clock (nextRound e w.clock) result).next := by
  simp only [afterRound]
  split
  next told => exact (if_pos told).symm
  next stays => exact (if_neg stays).symm

/-- A leader that was not told to shut down goes on by what the round means. -/
theorem afterRound_eq (told : w.shutdown = false) (kept : w.leadership.lost = false) :
    w.afterRound e lastRenewed result =
      { w with
        shutdown :=
          (w.leadership.afterRound e lastRenewed w.clock (nextRound e w.clock) result).lost
        leadership := w.leadership.afterRound e lastRenewed w.clock (nextRound e w.clock) result
        inRound := false
        rounds := (result, w.clock) :: w.rounds } := by
  simp only [afterRound, told, Bool.false_or]
  split
  next lost => rw [halted_afterRound kept lost]
  next => rfl

end World

namespace IsSound

variable (sound : IsSound e begun w)

include sound

/-- A leader that has a next round has not lost its lease. -/
theorem lost_eq_false {last due : Nat} (next : w.leadership.next = some (last, due)) :
    w.leadership.lost = false := by
  rw [← Bool.not_eq_true]
  intro lost
  rw [sound.ended lost] at next
  cases next

/-- A leader that has a next round after a pause was not told to shut down. -/
theorem shutdown_eq_false {last due : Nat} (idle : w.inRound = false)
    (next : w.leadership.next = some (last, due)) : w.shutdown = false := by
  rw [← Bool.not_eq_true]
  intro told
  rw [sound.halted told idle] at next
  cases next

/-- Whether a leader whose round ends has lost its lease goes by that round alone. -/
theorem lost_afterRound_iff {last due : Nat} (result : Round)
    (next : w.leadership.next = some (last, due)) :
    (w.afterRound e last result).leadership.lost = true ↔
      Loses e (lastSuccess begun w.rounds) w.clock result := by
  obtain ⟨rfl, -⟩ := sound.next last due next
  rw [World.lost_afterRound]
  exact lost_afterRound (sound.lost_eq_false next)

/-- None of the rounds before the last one of a leader that goes on means that the lease is lost. -/
theorem not_loses {last due : Nat} (next : w.leadership.next = some (last, due))
    {later earlier : List (Round × Nat)} {result : Round} {ended : Nat}
    (rounds : w.rounds = later ++ (result, ended) :: earlier) :
    ¬ Loses e (lastSuccess begun earlier) ended result := by
  intro loses
  obtain rfl := sound.first later result ended earlier rounds loses
  have lost := sound.lost_iff.mpr ⟨result, ended, earlier, rounds, loses⟩
  simp [sound.lost_eq_false next] at lost

theorem afterRound {last due : Nat} (result : Round)
    (next : w.leadership.next = some (last, due)) :
    IsSound e begun (w.afterRound e last result) where
  next renewed later goesOn := by
    obtain ⟨rfl, -⟩ := sound.next last due next
    rw [World.next_afterRound] at goesOn
    split at goesOn
    · cases goesOn
    · exact next_afterRound goesOn
  ended lost := by
    rw [World.next_afterRound, World.shutdown_afterRound, lost, Bool.or_true]
    rfl
  told lost := by rw [World.shutdown_afterRound, lost, Bool.or_true]
  halted told _ := by rw [World.next_afterRound, if_pos told]
  lost_iff := by
    rw [sound.lost_afterRound_iff result next]
    constructor
    · intro loses
      exact ⟨result, w.clock, w.rounds, rfl, loses⟩
    · rintro ⟨_, _, _, rounds, loses⟩
      cases rounds
      exact loses
  first later last ended earlier rounds loses := by
    cases later with
    | nil => rfl
    | cons _ later => exact absurd loses (sound.not_loses next (List.cons.inj rounds).2)
  goesOn kept stays _ intact := by
    rw [World.lost_afterRound] at kept
    obtain ⟨renewed, goesOn⟩ := isSome_next_afterRound kept (intact _ List.mem_cons_self)
    refine ⟨renewed, nextRound e w.clock, ?_⟩
    rw [World.next_afterRound, if_neg (Bool.eq_false_iff.mp stays)]
    exact goesOn

theorem shutDown : IsSound e begun w.shutDown where
  next last due goesOn := by
    cases busy : w.inRound with
    | false => simp [World.shutDown, busy] at goesOn
    | true => exact sound.next last due (by simpa [World.shutDown, busy] using goesOn)
  ended lost := by
    cases busy : w.inRound with
    | false => simp [World.shutDown, busy]
    | true => simpa [World.shutDown, busy] using sound.ended (by simpa [World.shutDown, busy] using lost)
  told _ := rfl
  halted _ idle := by
    have idle : w.inRound = false := idle
    simp [World.shutDown, idle]
  lost_iff := by
    have same : w.shutDown.leadership.lost = w.leadership.lost := by
      cases busy : w.inRound <;> simp [World.shutDown, busy]
    rw [same]
    exact sound.lost_iff
  first := sound.first
  goesOn _ stays _ _ := nomatch stays

theorem abandon : IsSound e begun w.abandon where
  next _ _ goesOn := nomatch goesOn
  ended _ := rfl
  told lost := sound.told lost
  halted _ _ := rfl
  lost_iff := sound.lost_iff
  first := sound.first
  goesOn _ _ keeps _ := nomatch keeps

/-- Whatever happens next, a leader goes by the same. -/
theorem step (step : Step e w w') : IsSound e begun w' := by
  cases step with
  | passes forward => exact { sound with }
  | begins idle next isDue => exact { sound with halted := fun _ idle => nomatch idle }
  | ends result busy next => exact sound.afterRound result next
  | shutsDown => exact sound.shutDown
  | abandons => exact sound.abandon

/-- A round that begins when it is due and takes no time. -/
theorem round {last due : Nat} (idle : w.inRound = false)
    (next : w.leadership.next = some (last, due)) (forward : w.clock ≤ due) (result : Round) :
    Relation.ReflTransGen (Step e) w
      { w with
        clock := due
        shutdown := (w.leadership.afterRound e last due (nextRound e due) result).lost
        leadership := w.leadership.afterRound e last due (nextRound e due) result
        inRound := false
        rounds := (result, due) :: w.rounds } := by
  have passes := Relation.ReflTransGen.single (Step.passes (e := e) forward)
  have begins := passes.tail (.begins idle next (Nat.le_refl due))
  have ends := begins.tail (.ends result rfl next)
  rw [World.afterRound_eq (w := { w with clock := due, inRound := true })
    (sound.shutdown_eq_false idle next) (sound.lost_eq_false next)] at ends
  exact ends

/-- Nothing becomes of a leader any more that was told to shut down during a pause. -/
theorem stays (told : w.shutdown = true) (idle : w.inRound = false) (step : Step e w w') :
    w'.rounds = w.rounds ∧ w'.leadership.lost = w.leadership.lost ∧ w'.shutdown = true ∧
      w'.inRound = false := by
  cases step with
  | passes forward => exact ⟨rfl, rfl, told, idle⟩
  | begins idle next isDue => simp [sound.halted told idle] at next
  | ends result busy next => simp [idle] at busy
  | shutsDown =>
      refine ⟨rfl, ?_, rfl, idle⟩
      simp [World.shutDown, idle]
  | abandons => exact ⟨rfl, rfl, told, rfl⟩

theorem run (run : Relation.ReflTransGen (Step e) w w') : IsSound e begun w' := by
  induction run with
  | refl => exact sound
  | tail _ step ih => exact ih.step step

theorem stays_run (told : w.shutdown = true) (idle : w.inRound = false)
    (run : Relation.ReflTransGen (Step e) w w') :
    w'.rounds = w.rounds ∧ w'.leadership.lost = w.leadership.lost ∧ w'.shutdown = true ∧
      w'.inRound = false := by
  induction run with
  | refl => exact ⟨rfl, rfl, told, idle⟩
  | tail run step ih =>
      obtain ⟨rounds, lost, told, idle⟩ := ih
      obtain ⟨rounds', lost', told', idle'⟩ := (sound.run run).stays told idle step
      exact ⟨rounds'.trans rounds, lost'.trans lost, told', idle'⟩

/-- Whether the lease is lost changes only when a round ends that means so. -/
theorem recorded (step : Step e w w') (changes : w'.leadership.lost ≠ w.leadership.lost) :
    ∃ result, Loses e (lastSuccess begun w.rounds) w.clock result ∧
      w'.rounds = (result, w.clock) :: w.rounds ∧ w'.shutdown = true := by
  cases step with
  | ends result busy next =>
      have kept := sound.lost_eq_false next
      rw [kept, Bool.ne_false_iff] at changes
      exact ⟨result, (sound.lost_afterRound_iff result next).mp changes, rfl,
        (sound.afterRound result next).told changes⟩
  | shutsDown =>
      refine absurd ?_ changes
      cases busy : w.inRound <;> simp [World.shutDown, busy]
  | _ => exact absurd rfl changes

theorem cancels (step : Step e w w') (changes : w'.shutdown ≠ w.shutdown) :
    w' = w.shutDown ∨ w'.leadership.lost ≠ w.leadership.lost := by
  cases step with
  | @ends lastRenewed _ result busy next =>
      refine .inr ?_
      rw [World.shutdown_afterRound] at changes
      intro same
      rw [same, sound.lost_eq_false next, Bool.or_false] at changes
      exact changes rfl
  | shutsDown => exact .inl rfl
  | _ => exact absurd rfl changes

theorem kept : IsKept e begun w where
  lost_iff := sound.lost_iff
  first := sound.first
  recorded w' := sound.recorded
  cancels w' := sound.cancels
  stops told idle w' run := by
    obtain ⟨rounds, lost, -, -⟩ := sound.stays_run told idle run
    exact ⟨rounds, lost⟩
  goesOn kept stays keeps intact := by
    obtain ⟨last, due, goesOn⟩ := sound.goesOn kept stays keeps intact
    obtain ⟨rfl, rfl⟩ := sound.next last due goesOn
    exact goesOn
  leaves lost := by
    rw [Leadership.release, if_pos lost]
    rfl

end IsSound

/-- Whether a leader has lost its lease goes by what its rounds have come to, whatever happens. -/
theorem Reachable.isKept (reached : Reachable e begun w) : IsKept e begun w := by
  obtain ⟨shutdown, run⟩ := reached
  exact ((isSound_start begun shutdown).run run).kept

/-- An elector with the timings that leases have by default. -/
def podA : Elector :=
  .ofConfig {} .empty "pod-a"

/-- A leader with a deadline of ten seconds that was not answered twice, the second time until the
deadline. -/
theorem isKept_of_podA :
    ∃ w cause, Reachable podA 0 w ∧
      w.rounds = [(.failed cause, 10000), (.failed cause, 3000)] ∧
      (w.leadership.lost = true ∧ w.shutdown = true) ∧ IsKept podA 0 w := by
  let unanswered : Round := .failed (.api (.unusable "HyperError"))
  have w1 := (Relation.ReflTransGen.refl (r := Step podA) (a := World.start podA 0 false)).tail
    (.passes (show 0 ≤ 2000 by decide))
  have w2 := w1.tail (.begins rfl rfl (Nat.le_refl 2000))
  have w3 := w2.tail (.passes (show 2000 ≤ 3000 by decide))
  have w4 := w3.tail (.ends unanswered rfl rfl)
  have w5 := w4.tail (.passes (show 3000 ≤ 5000 by decide))
  have w6 := w5.tail (.begins rfl rfl (Nat.le_refl 5000))
  have w7 := w6.tail (.passes (show 5000 ≤ 10000 by decide))
  have w8 := w7.tail (.ends unanswered rfl rfl)
  have reached : Reachable podA 0 _ := ⟨false, w8⟩
  exact ⟨_, _, reached, rfl, ⟨rfl, rfl⟩, Reachable.isKept reached⟩

end Upkeep

namespace Simulation.Replica

open Upkeep

/-- A replica that leads, with what its rounds have come to. -/
def upkeep (r : Replica) (l : Leadership) (rounds : List (Round × Nat)) : World where
  clock := r.clock
  shutdown := r.shutdown
  leadership := l
  inRound := false
  letGo := false
  rounds

/-- Whether nothing was due before. -/
structure IsOnTime (r : Replica) (l : Leadership) : Prop where
  round : ∀ last due, l.next = some (last, due) → r.clock ≤ due
  cancellation : ∀ c ∈ r.cancellations, r.clock ≤ c

/-- What happens next in the background of a replica that leads. -/
inductive Happens (r : Replica) (l : Leadership) : Replica → Prop
  | cancels {c : Nat} (given : c ∈ r.cancellations) (earliest : ∀ c' ∈ r.cancellations, c ≤ c') :
    Happens r l { r with clock := c, cancellations := r.cancellations.erase c }.cancel
  | renews {last due : Nat} (next : l.next = some (last, due))
    (before : ∀ c ∈ r.cancellations, due ≤ c) :
    Happens r l ({ r with clock := due }.renew l last)

variable {r r' : Replica} {l : Leadership} {begun instant c : Nat} {rounds : List (Round × Nat)}

/-- A question of the elector changes only the server and what is noted. -/
theorem answer_eq (r : Replica) (q : Question) :
    ∃ server readings log, (r.answer q).2 = { r with server, readings, log } := by
  cases q <;> exact ⟨_, _, _, rfl⟩

theorem perform_eq {α : Type} (r : Replica) (procedure : Election α) :
    ∃ server readings log, (r.perform procedure).2 = { r with server, readings, log } := by
  induction procedure generalizing r with
  | done result => exact ⟨_, _, _, rfl⟩
  | ask q next ih =>
      obtain ⟨server, readings, log, asked⟩ := r.answer_eq q
      obtain ⟨server', readings', log', rest⟩ := ih (r.answer q).1 (r.answer q).2
      refine ⟨server', readings', log', ?_⟩
      calc (r.perform (.ask q next)).2
          = ((r.answer q).2.perform (next (r.answer q).1)).2 := rfl
        _ = { r with server := server', readings := readings', log := log' } := by
            rw [rest, asked]

theorem earliest_of_nextCancellation?
    (found : r.nextCancellation?.filter (· < instant) = some c) :
    c ∈ r.cancellations ∧ ∀ c' ∈ r.cancellations, c ≤ c' :=
  List.min?_eq_some_iff.mp (Option.filter_eq_some_iff.mp found).1

theorem le_of_nextCancellation? (none : r.nextCancellation?.filter (· < instant) = none) :
    ∀ c ∈ r.cancellations, instant ≤ c := by
  intro c given
  cases next : r.nextCancellation? with
  | none =>
      rw [List.min?_eq_none_iff.mp next] at given
      cases given
  | some earliest =>
      rw [next] at none
      have late : instant ≤ earliest := by simpa using none
      exact Nat.le_trans late ((List.min?_eq_some_iff.mp next).2 c given)

theorem happens_of_step? (leads : r.leadership = some l) (steps : r.step? instant = some r') :
    Happens r l r' := by
  have renewal (l' : Leadership) (last due : Nat)
      (found : (l.next.bind fun next => if next.2 < instant then some (l, next.1, next.2)
        else none) = some (l', last, due)) :
      l' = l ∧ l.next = some (last, due) ∧ due < instant := by
    obtain ⟨⟨last', due'⟩, next, found⟩ := Option.bind_eq_some_iff.mp found
    split at found
    next early =>
      cases found
      exact ⟨rfl, next, early⟩
    next => cases found
  simp only [step?, leads, Option.bind_eq_bind, Option.bind_some] at steps
  split at steps
  next c l' last due cancellation found =>
    obtain ⟨rfl, next, -⟩ := renewal l' last due found
    obtain ⟨given, earliest⟩ := earliest_of_nextCancellation? cancellation
    split at steps <;> cases steps
    next =>
      rw [← leads]
      exact .cancels given earliest
    next later =>
      rw [← leads]
      refine .renews next ?_
      intro c' given'
      exact Nat.le_trans (Nat.le_of_not_le later) (earliest c' given')
  next c cancellation _ =>
    obtain ⟨given, earliest⟩ := earliest_of_nextCancellation? cancellation
    cases steps
    rw [← leads]
    exact .cancels given earliest
  next l' last due cancellation found =>
    obtain ⟨rfl, next, early⟩ := renewal l' last due found
    cases steps
    rw [← leads]
    refine .renews next ?_
    intro c given
    exact Nat.le_trans (Nat.le_of_lt early) (le_of_nextCancellation? cancellation c given)
  next => cases steps

/-- A round to renew the lease changes what it may. -/
theorem renew_eq (r : Replica) (l : Leadership) (last : Nat) :
    ∃ result server readings log,
      r.renew l last =
        { r with
          server, readings, log
          leadership := some (l.afterRound r.elector last r.clock r.nextRound result)
          shutdown := r.shutdown ||
            (l.afterRound r.elector last r.clock r.nextRound result).lost } := by
  obtain ⟨server, readings, log, asked⟩ := r.perform_eq r.elector.round
  refine ⟨(r.perform r.elector.round).1, server, readings, log, ?_⟩
  simp only [renew, asked]
  rfl

/-- What happens in the background of a replica are steps of a leader. -/
theorem Happens.isRun (happens : Happens r l r') (leads : r.leadership = some l)
    (onTime : r.IsOnTime l) (sound : IsSound r.elector begun (r.upkeep l rounds)) :
    ∃ l' rounds', r'.leadership = some l' ∧ r'.IsOnTime l' ∧ r'.elector = r.elector ∧
      Relation.ReflTransGen (Step r.elector) (r.upkeep l rounds) (r'.upkeep l' rounds') := by
  cases happens with
  | @cancels c given earliest =>
      refine ⟨l.halted, rounds, by simp [cancel, leads], ⟨nofun, ?_⟩, rfl, ?_⟩
      · intro c' given'
        exact earliest c' (List.mem_of_mem_erase given')
      · exact (Relation.ReflTransGen.single (.passes (onTime.cancellation c given))).tail .shutsDown
  | @renews last due next before =>
      obtain ⟨result, server, readings, log, renewed⟩ := renew_eq { r with clock := due } l last
      rw [renewed]
      refine ⟨_, (result, due) :: rounds, rfl, ⟨?_, before⟩, rfl, ?_⟩
      · intro last' due' goesOn
        rw [(due_of_next_afterRound goesOn).2]
        exact Nat.le_add_right due _
      · have told : r.shutdown = false := sound.shutdown_eq_false rfl next
        have run := sound.round rfl next (onTime.round last due next) result
        rw [told, Bool.false_or]
        exact run

/-- As long as nothing was due before, the background of a replica is a run of a leader. -/
theorem isRun_runBefore (fuel : Nat) (leads : r.leadership = some l) (onTime : r.IsOnTime l)
    (sound : IsSound r.elector begun (r.upkeep l rounds)) :
    ∃ l' rounds', (runBefore instant fuel r).leadership = some l' ∧
      Relation.ReflTransGen (Step r.elector) (r.upkeep l rounds)
        ((runBefore instant fuel r).upkeep l' rounds') := by
  induction fuel generalizing r l rounds with
  | zero => exact ⟨l, rounds, leads, .refl⟩
  | succ fuel ih =>
      unfold runBefore
      split
      next r' steps =>
        obtain ⟨l₁, rounds₁, leads₁, onTime₁, same, run⟩ :=
          (happens_of_step? leads steps).isRun leads onTime sound
        have sound₁ := sound.run run
        rw [← same] at sound₁ run ⊢
        obtain ⟨l', rounds', leads', run'⟩ := ih leads₁ onTime₁ sound₁
        exact ⟨l', rounds', leads', run.trans run'⟩
      next => exact ⟨l, rounds, leads, .refl⟩

/-- What the rounds in the background of a replica come to has to do in the same way with whether it
has lost its lease. -/
theorem isKept_runBefore (fuel : Nat)
    (leads : r.leadership = some (.begun r.shutdown r.clock r.nextRound))
    (onTime : ∀ c ∈ r.cancellations, r.clock ≤ c) :
    ∃ l rounds, (runBefore instant fuel r).leadership = some l ∧
      IsKept r.elector r.clock ((runBefore instant fuel r).upkeep l rounds) := by
  have due : ∀ last due, (Leadership.begun r.shutdown r.clock r.nextRound).next =
      some (last, due) → r.clock ≤ due := by
    intro last due next
    unfold Leadership.begun at next
    split at next
    · cases next
    · cases next
      exact Nat.le_add_right _ _
  have sound : IsSound r.elector r.clock (r.upkeep (.begun r.shutdown r.clock r.nextRound) []) :=
    isSound_start r.clock r.shutdown
  obtain ⟨l, rounds, goesOn, run⟩ := isRun_runBefore fuel leads ⟨due, onTime⟩ sound
  exact ⟨l, rounds, goesOn, (sound.run run).kept⟩

end Simulation.Replica

end MachineProvider
