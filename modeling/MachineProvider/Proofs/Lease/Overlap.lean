import MachineProvider.Proofs.Lease.Exclusion

/-!
# Two replicas that lead at once

When a leader may go on for longer than its lease lasts, there is a run in which it does: all its
calls fail after it has become the leader, and another replica takes the lease over while the leader
waits for its next round (`exists_two_leaders`). Together with the invariant this tells which timings
keep replicas from leading at once (`exclusive_iff`), in the runs that begin with a lease of a
replica only if it has the duration of the replicas' leases.
-/

namespace MachineProvider

open Procedure Relation

namespace Election

variable {n nm : String} {wall : Timestamp} {store mid after : Store Lease}

/-- How a round goes when nobody else does anything in the meantime. -/
inductive Performs (n nm : String) (wall : Timestamp) :
    Election Round → Store Lease → Round → Store Lease → Prop
  | done {result : Round} {store : Store Lease} : Performs n nm wall (.done result) store result store
  | ask {q : Question} {next : Answer q → Election Round} {a : Answer q} {result : Round}
    {store mid after : Store Lease} (served : Serves n nm wall store mid q a)
    (rest : Performs n nm wall (next a) mid result after) :
    Performs n nm wall (.ask q next) store result after

variable {e : Elector}

/-- A round that finds no lease makes one. -/
theorem performs_create (named : e.leaseName.isEmpty = false) (missing : store.current = none)
    {v : Lease} (fresh : store.IsFresh v) (content : v.spec = (e.newLease wall).spec) :
    Performs e.namespace e.leaseName wall e.round store .held (store.put v) := by
  have now : Serves e.namespace e.leaseName wall store store .now wall := ⟨rfl, rfl⟩
  have absent : Serves e.namespace e.leaseName wall store store
      (.fetch e.namespace e.leaseName) (.error (.refused "" "NotFound" 404)) := rfl
  have made : Serves e.namespace e.leaseName wall store (store.put v)
      (.create e.namespace e.leaseName (e.newLease wall)) (.ok ()) :=
    ⟨rfl, rfl, missing, v, fresh, content, rfl⟩
  unfold Elector.round
  apply Performs.ask now
  rw [named, if_neg Bool.false_ne_true]
  apply Performs.ask absent
  exact .ask made .done

/-- A round in which the lease cannot be read fails. -/
theorem performs_fail (named : e.leaseName.isEmpty = false) (failure : String) :
    Performs e.namespace e.leaseName wall e.round store
      (.failed (.api (.unusable failure))) store := by
  have now : Serves e.namespace e.leaseName wall store store .now wall := ⟨rfl, rfl⟩
  have failed : Serves e.namespace e.leaseName wall store store
      (.fetch e.namespace e.leaseName) (.error (.unusable failure)) := rfl
  unfold Elector.round
  apply Performs.ask now
  rw [named, if_neg Bool.false_ne_true]
  exact .ask failed .done

/-- A round that finds a free lease takes it. -/
theorem performs_takeOver (named : e.leaseName.isEmpty = false) {lease : Lease}
    (stored : store.current = some lease) {transitions : Int32}
    (free : Lease.decide lease.spec e.identity wall = some (.takeOver transitions))
    {v : Lease} (fresh : store.IsFresh v) (content : v.spec = (e.taken lease transitions wall).spec) :
    Performs e.namespace e.leaseName wall e.round store .held (store.put v) := by
  have now : Serves e.namespace e.leaseName wall store store .now wall := ⟨rfl, rfl⟩
  have read : Serves e.namespace e.leaseName wall store store
      (.fetch e.namespace e.leaseName) (.ok lease) := ⟨rfl, rfl, stored, rfl⟩
  have taken : Serves e.namespace e.leaseName wall store (store.put v)
      (.replace e.namespace e.leaseName (e.taken lease transitions wall)) (.ok ()) :=
    ⟨rfl, rfl, ⟨lease, stored, .inr rfl⟩, v, fresh, content, rfl⟩
  unfold Elector.round
  apply Performs.ask now
  rw [named, if_neg Bool.false_ne_true]
  apply Performs.ask read
  change Performs _ _ _ (e.carryOut lease wall (Lease.decide lease.spec e.identity wall)) _ _ _
  rw [free]
  exact .ask taken .done

end Election

namespace Replicas

open Election Elector

variable {group : Replicas} {w : World} {id : String} {after : Store Lease}

theorem step_of_stage {stage stage' : Stage} (member : id ∈ group.identities)
    (standing : w.stage id = stage)
    (move : Moves (group.elector id) w.clock (w.wallAt w.clock) w.store stage stage' after) :
    group.Step w { w with store := after, stage := Function.update w.stage id stage' } :=
  .moves member (standing ▸ move)

/-- A round that nobody interferes with is a run. -/
theorem run_of_performs {purpose : Purpose} {rest : Election Round} {result : Round}
    (member : id ∈ group.identities) (standing : w.stage id = .inRound purpose rest)
    (performs : Performs (group.elector id).namespace (group.elector id).leaseName
      (w.wallAt w.clock) rest w.store result after) :
    ReflTransGen group.Step w
      { w with
        store := after
        stage := Function.update w.stage id
          (Stage.afterRound (group.elector id) w.clock result purpose) } := by
  generalize shown : w.wallAt w.clock = wall at performs
  generalize stored : w.store = store at performs
  induction performs generalizing w with
  | done =>
      subst stored
      exact .single (step_of_stage member standing .ends)
  | @ask q next a result store mid after served _ ih =>
      subst shown stored
      have asks := step_of_stage member standing (.asks served)
      have rest := ih (w := { w with
        store := mid, stage := Function.update w.stage id (.inRound purpose (next a)) })
        (Function.update_self ..) rfl rfl
      rw [Function.update_idem] at rest
      exact .head asks rest

/-- A replica that begins a round with nobody interfering goes through it. -/
theorem run_of_round {purpose : Purpose} {stage : Stage} {result : Round}
    (member : id ∈ group.identities) (standing : w.stage id = stage)
    (begins : Moves (group.elector id) w.clock (w.wallAt w.clock) w.store stage
      (.inRound purpose (group.elector id).round) w.store)
    (performs : Performs (group.elector id).namespace (group.elector id).leaseName
      (w.wallAt w.clock) (group.elector id).round w.store result after) :
    ReflTransGen group.Step w
      { w with
        store := after
        stage := Function.update w.stage id
          (Stage.afterRound (group.elector id) w.clock result purpose) } := by
  have first := step_of_stage member standing begins
  have rest := run_of_performs (w := { w with
    stage := Function.update w.stage id (.inRound purpose (group.elector id).round) })
    member (Function.update_self ..) performs
  rw [Function.update_idem] at rest
  exact .head first rest

/-- A replica that became the leader at the beginning of 1970 and has failed to renew its lease so many
times since, while nobody else took part. -/
structure Alone (group : Replicas) (id : String) (failures : Nat) (w : World) : Prop where
  clock : w.clock = failures * (group.elector id).retryPeriod.millis
  epoch : w.epoch = 0
  lease : ∃ l s, w.store.current = some l ∧ l.spec = some s ∧
    (group.elector id).Claims (.ofMicros 0) s
  versions : w.store.versions.map version = [some "1"]
  leading : w.stage id = .leading 0 ((failures + 1) * (group.elector id).retryPeriod.millis)
  idle : ∀ other, other ≠ id → w.stage other = .idle

/-- The first lease of a replica. -/
def firstLease (e : Elector) : Lease :=
  { e.newLease (.ofMicros 0) with
    metadata := { (e.newLease (.ofMicros 0)).metadata with resourceVersion := some "1" } }

theorem exists_alone (member : id ∈ group.identities) :
    ∃ w, group.Reachable w ∧ group.Alone id 0 w := by
  let start : World :=
    { clock := 0
      epoch := 0
      store := .empty
      stage := fun _ => .idle }
  have begins : group.Begins start := by
    refine ⟨fun _ => rfl, .empty, ?_⟩
    intro s stands
    cases stands
  have fresh : start.store.IsFresh (firstLease (group.elector id)) := .empty rfl
  have run := run_of_round (w := start) member rfl .enters
    (performs_create group.sound.named rfl fresh rfl)
  refine ⟨_, ⟨start, begins, run⟩, ?_⟩
  refine ⟨?_, rfl, ⟨_, _, rfl, rfl, rfl, rfl, rfl⟩, rfl, ?_, ?_⟩
  · simp [start]
  · simp [start, Stage.afterRound]
  · intro other ne
    exact Function.update_of_ne ne _ _

/-- Time passes until the leader that is alone has to do something. -/
theorem Alone.passes {failures instant : Nat} (h : group.Alone id failures w)
    (forward : failures * (group.elector id).retryPeriod.millis ≤ instant)
    (before : instant ≤ (failures + 1) * (group.elector id).retryPeriod.millis) :
    group.Step w { w with clock := instant } := by
  refine .passes (h.clock ▸ forward) ?_
  intro other _
  by_cases same : other = id
  · rw [same, h.leading]
    exact before
  · rw [h.idle other same]
    trivial

/-- A leader that is alone fails to renew its lease once more. -/
theorem Alone.next {failures : Nat} (h : group.Alone id failures w) (reachable : group.Reachable w)
    (member : id ∈ group.identities)
    (early : (failures + 1) * (group.elector id).retryPeriod.millis <
      (group.elector id).renewDeadline.millis) :
    ∃ w', group.Reachable w' ∧ group.Alone id (failures + 1) w' := by
  obtain ⟨start, begins, run⟩ := reachable
  have passes := h.passes (Nat.mul_le_mul_right _ (Nat.le_succ failures)) le_rfl
  have fails := run_of_round
    (w := { w with clock := (failures + 1) * (group.elector id).retryPeriod.millis })
    member h.leading (.renews le_rfl) (performs_fail group.sound.named "")
  refine ⟨_, ⟨start, begins, (run.tail passes).trans fails⟩, ?_⟩
  refine ⟨rfl, h.epoch, h.lease, h.versions, ?_, ?_⟩
  · dsimp only
    rw [Function.update_self, Stage.afterRound_of_lt _ (by rwa [Nat.sub_zero])]
    rw [Nat.add_one_mul (failures + 1)]
  · intro other ne
    exact (Function.update_of_ne ne _ _).trans (h.idle other ne)

/-- A leader can fail to renew its lease in each round before the deadline. -/
theorem exists_alone_of_lt (member : id ∈ group.identities) (failures : Nat)
    (early : failures * group.config.retryPeriodSeconds.toNat <
      group.config.renewDeadlineSeconds.toNat) :
    ∃ w, group.Reachable w ∧ group.Alone id failures w := by
  induction failures with
  | zero => exact exists_alone member
  | succ failures ih =>
      have lt : failures * group.config.retryPeriodSeconds.toNat <
          group.config.renewDeadlineSeconds.toNat := by
        calc
          _ ≤ (failures + 1) * group.config.retryPeriodSeconds.toNat :=
            Nat.mul_le_mul_right _ (Nat.le_succ failures)
          _ < group.config.renewDeadlineSeconds.toNat := early
      obtain ⟨w, reachable, alone⟩ := ih lt
      apply alone.next reachable member
      rw [retryPeriod_elector, renewDeadline_elector, ← Nat.mul_assoc]
      exact Nat.mul_lt_mul_of_pos_right early (by decide)

/-- The lease of a leader that is alone is free for others once it has expired. -/
theorem Alone.free {failures : Nat} {other : String} (h : group.Alone id failures w)
    (member : id ∈ group.identities) (ne : other ≠ id) {l : Lease}
    (stored : w.store.current = some l) :
    ∃ transitions, Lease.decide l.spec other
      (.ofMicros (1000 * ((group.config.secondsToTakeOver * 1000 + 1 : Nat) : Int))) =
        some (.takeOver transitions) := by
  obtain ⟨l', s, stored', stood, claims⟩ := h.lease
  rw [stored, Option.some.injEq] at stored'
  rw [stored', stood]
  refine ⟨s.transitions, ?_⟩
  apply Lease.takeOver_of_expired claims.holder (group.named id member) ne.symm
  have bound : group.config.secondsToTakeOver ≤ 2 ^ 31 - 1 := Nat.min_le_right _ _
  have representable : Timestamp.firstSecond ≤ 0 ∧ 2 ^ 31 - 1 ≤ Timestamp.lastSecond := by decide
  have duration : s.leaseDurationSeconds = some group.duration := claims.duration
  apply Lease.isExpired?_of_lt claims.renewTime duration
  · rw [toInt_duration]
    omega
  · rw [toInt_duration]
    omega

/-- A version with a resource version of its own. -/
def secondVersion (l : Lease) : Lease :=
  { l with metadata := { l.metadata with resourceVersion := some "2" } }

theorem Alone.isFresh {failures : Nat} (h : group.Alone id failures w) (l : Lease) :
    w.store.IsFresh (secondVersion l) := by
  refine .of_not_mem rfl ?_
  rw [h.versions]
  simp [version, secondVersion]

/-- A leader that is alone is joined by another one when its lease has expired. -/
theorem Alone.joined {failures : Nat} {other : String} (h : group.Alone id failures w)
    (reachable : group.Reachable w) (member : id ∈ group.identities)
    (member' : other ∈ group.identities) (ne : other ≠ id)
    (forward : failures * (group.elector id).retryPeriod.millis ≤
      group.config.secondsToTakeOver * 1000 + 1)
    (before : group.config.secondsToTakeOver * 1000 + 1 ≤
      (failures + 1) * (group.elector id).retryPeriod.millis) :
    ∃ w', group.Reachable w' ∧ (w'.stage id).Leads ∧ (w'.stage other).Leads := by
  obtain ⟨start, begins, run⟩ := reachable
  obtain ⟨l, -, stored, -, -⟩ := h.lease
  obtain ⟨transitions, free⟩ := h.free member ne stored
  have passes := h.passes forward before
  have shows : w.wallAt (group.config.secondsToTakeOver * 1000 + 1) =
      .ofMicros (1000 * ((group.config.secondsToTakeOver * 1000 + 1 : Nat) : Int)) := by
    rw [World.wallAt, h.epoch, Int.zero_add]
  rw [← shows] at free
  have fresh := h.isFresh ((group.elector other).taken l transitions
    (w.wallAt (group.config.secondsToTakeOver * 1000 + 1)))
  have takes := run_of_round
    (w := { w with clock := group.config.secondsToTakeOver * 1000 + 1 })
    member' (h.idle other ne) .enters
    (performs_takeOver group.sound.named stored free fresh rfl)
  refine ⟨_, ⟨start, begins, (run.tail passes).trans takes⟩, ?_, ?_⟩
  · dsimp only
    rw [Function.update_of_ne ne.symm, h.leading]
    trivial
  · dsimp only
    rw [Function.update_self]
    trivial

/-- When a leader may go on for longer than its lease lasts, two replicas may lead at once. -/
theorem exists_two_leaders {other : String} (member : id ∈ group.identities)
    (member' : other ∈ group.identities) (ne : other ≠ id)
    (late : group.config.secondsToTakeOver < group.config.secondsToGiveUp) :
    ∃ w, group.Reachable w ∧ (w.stage id).Leads ∧ (w.stage other).Leads := by
  let failures := group.config.secondsToTakeOver / group.config.retryPeriodSeconds.toNat
  have before : failures * group.config.retryPeriodSeconds.toNat ≤
      group.config.secondsToTakeOver := Nat.div_mul_le_self _ _
  have after : group.config.secondsToTakeOver <
      group.config.retryPeriodSeconds.toNat * (failures + 1) :=
    Nat.lt_mul_div_succ _ group.sound.retry_pos
  have early := group.sound.lt_deadline (before.trans_lt late)
  obtain ⟨w, reachable, alone⟩ := exists_alone_of_lt member failures early
  apply alone.joined reachable member member' ne
  · rw [retryPeriod_elector, ← Nat.mul_assoc]
    omega
  · rw [retryPeriod_elector, ← Nat.mul_assoc, Nat.mul_comm (failures + 1)]
    omega

/-- At most one replica leads at any time in every run if and only if there is only one replica or a
leader gives up before others take its lease over. A run begins with no lease, with any lease that
names none of the replicas, or with one that names a replica and has the duration that the replicas
record; it does not begin with one that a replica wrote for another duration (`Begins`). -/
theorem exclusive_iff (group : Replicas) :
    (∀ w, group.Reachable w → ∀ id ∈ group.identities, ∀ other ∈ group.identities,
      (w.stage id).Leads → (w.stage other).Leads → id = other) ↔
    group.identities.card ≤ 1 ∨
      group.config.secondsToGiveUp ≤ group.config.secondsToTakeOver := by
  constructor
  · intro exclusive
    by_contra! both
    obtain ⟨several, late⟩ := both
    obtain ⟨id, member, other, member', ne⟩ := Finset.one_lt_card.mp several
    obtain ⟨w, reachable, leads, leads'⟩ := exists_two_leaders member member' ne.symm late
    exact ne (exclusive w reachable id member other member' leads leads')
  · rintro (single | timely) w reachable id member other member' leads leads'
    · exact Finset.card_le_one.mp single id member other member'
    · exact (reachable.invariant timely).eq_of_leads member member' leads leads'

/-- Two replicas with timings in order. Their lease lasts for 11 seconds, and a leader whose round
failed 9 seconds after its last renewal has the next one only 18 seconds after it. -/
def sample : Replicas where
  config :=
    { enabled := true
      leaseDurationSeconds := 11
      renewDeadlineSeconds := 10
      retryPeriodSeconds := 9 }
  environment := .empty
  identities := {"pod-a", "pod-b"}
  enabled := rfl
  valid := by decide
  named := by decide

theorem two_leaders_of_sample :
    ∃ w, sample.Reachable w ∧ ∃ id ∈ sample.identities, ∃ other ∈ sample.identities,
      (w.stage id).Leads ∧ (w.stage other).Leads ∧ id ≠ other := by
  have several : ¬ sample.identities.card ≤ 1 := by decide
  have late : ¬ sample.config.secondsToGiveUp ≤ sample.config.secondsToTakeOver := by decide
  have overlap := (exclusive_iff sample).not.mpr (not_or.mpr ⟨several, late⟩)
  push Not at overlap
  exact overlap

end Replicas

end MachineProvider
