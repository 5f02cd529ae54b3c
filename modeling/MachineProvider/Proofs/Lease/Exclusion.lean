import MachineProvider.Proofs.Lease.Invariant

/-!
# At most one replica leads

Provided that a leader gives up before its lease expires, no other replica takes the lease over while
it leads. So every step keeps the invariant, whatever the replicas are answered, and the invariant
holds in every run (`Reachable.invariant`).
-/

namespace MachineProvider.Replicas

open Election Elector Procedure

variable {group : Replicas} {w : World} {id other : String} {since : Nat}

/-- Nobody else renews or takes over a lease that a replica has renewed in time. -/
theorem Holds.not_campaigns (h : group.Holds w id since) (named : id ≠ "") (ne : other ≠ id)
    (early : w.clock ≤ since + group.config.secondsToTakeOver * 1000)
    {after : Option LeaseSpec} :
    ¬ (group.elector other).Campaigns (w.wallAt w.clock) (recorded w.store) after := by
  obtain ⟨s, instant, stands, holder, lasts, renewed, late⟩ := h
  rw [stands]
  rintro (⟨stood, held, -⟩ | ⟨free, -, -⟩)
  · obtain rfl := Option.some.inj stood
    rw [holder] at held
    exact ne (Option.some.inj held).symm
  · have expired := Lease.expired_of_takeOver holder named free
    have passed := Lease.lt_of_isExpired? renewed lasts expired
    rw [group.toInt_duration] at passed
    omega

/-- Nobody else hands back a lease that a replica holds. -/
theorem Holds.not_resigns (h : group.Holds w id since) (ne : other ≠ id)
    {after : Option LeaseSpec} : ¬ (group.elector other).Resigns (recorded w.store) after := by
  obtain ⟨s, instant, stands, holder, -⟩ := h
  rintro ⟨⟨spec, stood, held⟩, -⟩
  rw [stands, Option.some.injEq] at stood
  rw [stood] at holder
  rw [holder] at held
  exact ne (Option.some.inj held).symm

/-- What a replica writes in a round says that it has just renewed its lease. -/
theorem claims_of_campaigns {wall : Timestamp} {before after : Option LeaseSpec}
    (agrees : group.Agrees before) (member : id ∈ group.identities)
    (h : (group.elector id).Campaigns wall before after) :
    ∃ s, after = some s ∧ (group.elector id).Claims wall s := by
  cases h with
  | @renews spec stood holder stands =>
      exact ⟨_, stands, holder, rfl, agrees spec stood id member holder⟩
  | takes free stands claims => exact ⟨_, stands, claims⟩

/-- A replica that has just renewed its lease holds it. -/
theorem holds_of_claims {after : Store Lease} {stages : String → Stage} {s : LeaseSpec}
    (stands : recorded after = some s) (claims : (group.elector id).Claims (w.wallAt w.clock) s) :
    group.Holds { w with store := after, stage := stages } id w.clock :=
  ⟨s, w.clock, stands, claims.holder, claims.duration, claims.renewTime, le_rfl⟩

theorem OnSchedule.le {instant : Nat} (h : group.OnSchedule since instant) :
    instant ≤ since + group.config.secondsToGiveUp * 1000 := by
  obtain ⟨n, rfl, le⟩ := h
  exact Nat.add_le_add_left (Nat.mul_le_mul_right 1000 le) since

/-- The first round after a renewal is on schedule. -/
theorem onSchedule_retry (instant : Nat) :
    group.OnSchedule instant (instant + (group.elector id).retryPeriod.millis) := by
  refine ⟨1, ?_, ?_⟩
  · rw [retryPeriod_elector, Nat.one_mul]
  · apply group.sound.next_round_le
    have := group.sound.retry_lt
    omega

/-- A round that failed before the deadline is followed by another one on schedule. -/
theorem OnSchedule.next {instant : Nat} (h : group.OnSchedule since instant)
    (early : instant - since < (group.elector id).renewDeadline.millis) :
    group.OnSchedule since (instant + (group.elector id).retryPeriod.millis) := by
  obtain ⟨n, rfl, -⟩ := h
  rw [renewDeadline_elector] at early
  refine ⟨n + 1, ?_, group.sound.next_round_le ?_⟩
  · rw [retryPeriod_elector, Nat.add_one_mul, Nat.add_mul, Nat.add_assoc]
  · omega

section Steps

variable {after : Store Lease} {stages : String → Stage} {stage stage' : Stage}

/-- What is true of a replica stays true as long as it keeps the lease and no version is lost. -/
theorem Fits.carried (h : group.Fits w id stage) (versions : w.store.versions ⊆ after.versions)
    (holds : ∀ since, w.clock ≤ since + group.config.secondsToGiveUp * 1000 →
      group.Holds w id since → group.Holds { w with store := after, stage := stages } id since) :
    group.Fits { w with store := after, stage := stages } id stage := by
  cases stage with
  | idle => trivial
  | waiting due => trivial
  | retired => trivial
  | stalled => exact h
  | leading lastRenewed due =>
      obtain ⟨held, before, schedule⟩ := h
      exact ⟨holds lastRenewed (before.trans schedule.le) held, before, schedule⟩
  | inRound purpose rest =>
      obtain ⟨k, informed, purposeful, follows⟩ := h
      refine ⟨k, ⟨?_, ?_⟩, ?_, follows⟩
      · intro l read
        exact versions (informed.read l read)
      · intro wrote
        exact holds w.clock (Nat.le_add_right _ _) (informed.wrote wrote)
      · cases purpose with
        | acquire => trivial
        | conclude lastRenewed => trivial
        | renew lastRenewed =>
            obtain ⟨held, schedule, named⟩ := purposeful
            exact ⟨holds lastRenewed schedule.le held, schedule, named⟩
  | resigning rest =>
      obtain ⟨k, read, follows⟩ := h
      exact ⟨k, fun l known => versions (read l known), follows⟩

/-- How a replica may change the record of the lease. -/
def Writes (group : Replicas) (w : World) (id : String) (before after : Option LeaseSpec) : Prop :=
  (group.elector id).Campaigns (w.wallAt w.clock) before after ∨
    (group.elector id).Resigns before after

/-- While a leader does not give up, no other replica changes the lease. -/
theorem Holds.not_writes (h : group.Holds w id since) (member : id ∈ group.identities)
    (timely : group.config.secondsToGiveUp ≤ group.config.secondsToTakeOver)
    (early : w.clock ≤ since + group.config.secondsToGiveUp * 1000) (ne : other ≠ id)
    {record : Option LeaseSpec} : ¬ group.Writes w other (recorded w.store) record := by
  have inTime : w.clock ≤ since + group.config.secondsToTakeOver * 1000 := by
    calc
      w.clock ≤ since + group.config.secondsToGiveUp * 1000 := early
      _ ≤ since + group.config.secondsToTakeOver * 1000 := by omega
  rintro (campaigns | resigns)
  · exact h.not_campaigns (group.named id member) ne inTime campaigns
  · exact h.not_resigns ne resigns

/-- Whatever a replica writes, a lease that names a replica lasts as long as it should. -/
theorem Writes.agrees {before record : Option LeaseSpec} (h : group.Writes w id before record)
    (member : id ∈ group.identities) (agrees : group.Agrees before) : group.Agrees record := by
  intro s stands other _ holder
  rcases h with campaigns | resigns
  · obtain ⟨s', stands', claims⟩ := claims_of_campaigns agrees member campaigns
    rw [stands', Option.some.injEq] at stands
    rw [← stands]
    exact claims.duration
  · rw [resigns.vacant s stands] at holder
    cases holder

/-- After a step of one replica every replica fits, provided that the one that moved does and that the
others still hold what they held. -/
theorem Invariant.fits_update (h : group.Invariant w)
    (versions : w.store.versions ⊆ after.versions)
    (holds : ∀ other ∈ group.identities, other ≠ id → ∀ since,
      w.clock ≤ since + group.config.secondsToGiveUp * 1000 → group.Holds w other since →
        group.Holds { w with store := after, stage := Function.update w.stage id stage' } other since)
    (fits : group.Fits { w with store := after, stage := Function.update w.stage id stage' } id
      stage') :
    ∀ other ∈ group.identities,
      group.Fits { w with store := after, stage := Function.update w.stage id stage' } other
        (Function.update w.stage id stage' other) := by
  intro other member
  by_cases same : other = id
  · rw [same, Function.update_self]
    exact fits
  · rw [Function.update_of_ne same]
    exact (h.fits other member).carried versions (holds other member same)

/-- A step of one replica keeps the invariant when the replica fits afterwards. -/
theorem Invariant.moved {mayFollow : Option LeaseSpec → Option LeaseSpec → Prop} {k k' : Knowledge}
    (h : group.Invariant w) (timely : group.config.secondsToGiveUp ≤ group.config.secondsToTakeOver)
    (member : id ∈ group.identities) (effect : Effect mayFollow w.store after k k')
    (writes : ∀ before record, mayFollow before record → group.Writes w id before record)
    (fits : group.Fits { w with store := after, stage := Function.update w.stage id stage' } id
      stage') :
    group.Invariant { w with store := after, stage := Function.update w.stage id stage' } := by
  cases effect with
  | kept same _ =>
      subst same
      refine ⟨h.lawful, h.agrees, h.fits_update (List.Subset.refl _) ?_ fits⟩
      intro other _ _ since _ held
      exact held
  | @stored v fresh put follows =>
      have written := writes _ _ follows
      have versions : w.store.versions ⊆ after.versions := put ▸ List.subset_cons_self _ _
      refine ⟨put ▸ h.lawful.put fresh, written.agrees member h.agrees,
        h.fits_update versions ?_ fits⟩
      intro other member' ne since early held
      exact absurd written (held.not_writes member' timely early ne.symm)

/-- A replica that begins a round knows nothing yet. -/
theorem fits_round {purpose : Purpose} (purposeful : group.Purposeful w id {} purpose) :
    group.Fits w id (.inRound purpose (group.elector id).round) := by
  refine ⟨{}, ⟨?_, ?_⟩, purposeful, follows_round⟩
  · intro l known
    cases known
  · intro wrote
    cases wrote

/-- A replica that begins to hand its lease back knows nothing yet. -/
theorem fits_release : group.Fits w id (.resigning (group.elector id).release) := by
  refine ⟨{}, ?_, follows_discipline follows_release⟩
  intro l known
  cases known

section Asks

variable {k k' : Knowledge}

/-- A leader that writes in a round still holds the lease. -/
theorem holds_after (h : group.Holds w id since) (past : since ≤ w.clock)
    (agrees : group.Agrees (recorded w.store)) (member : id ∈ group.identities)
    (effect : Effect ((group.elector id).Campaigns (w.wallAt w.clock)) w.store after k k') :
    group.Holds { w with store := after, stage := stages } id since := by
  cases effect with
  | kept same _ =>
      rw [same]
      exact h
  | stored fresh put follows =>
      obtain ⟨s, stands, claims⟩ := claims_of_campaigns agrees member follows
      exact (holds_of_claims stands claims).mono past

/-- A replica whose write was accepted in a round holds the lease. -/
theorem holds_of_wrote (wrote : k'.wrote = true)
    (before : k.wrote = true → group.Holds w id w.clock)
    (agrees : group.Agrees (recorded w.store)) (member : id ∈ group.identities)
    (effect : Effect ((group.elector id).Campaigns (w.wallAt w.clock)) w.store after k k') :
    group.Holds { w with store := after, stage := stages } id w.clock := by
  cases effect with
  | kept same unwritten =>
      rw [same]
      exact before (unwritten ▸ wrote)
  | stored fresh put follows =>
      obtain ⟨s, stands, claims⟩ := claims_of_campaigns agrees member follows
      exact holds_of_claims stands claims

/-- A leader finds its name in the lease that it reads. -/
theorem Holds.named (h : group.Holds w id since) {l : Lease} (stored : w.store.current = some l) :
    ∃ s, l.spec = some s ∧ s.holderIdentity = some id := by
  obtain ⟨s, -, stands, holder, -⟩ := h
  exact ⟨s, by simpa [recorded, stored] using stands, holder⟩

theorem OnSchedule.ge {instant : Nat} (h : group.OnSchedule since instant) : since ≤ instant := by
  obtain ⟨n, rfl, -⟩ := h
  exact Nat.le_add_right _ _

variable {purpose : Purpose} {q : Question} {a : Answer q}

/-- An answer in a round changes the lease only as the replica may, and the replica still fits. -/
theorem Fits.asked {next : Answer q → Election Round} (h : group.Invariant w)
    (member : id ∈ group.identities) (fits : group.Fits w id (.inRound purpose (.ask q next)))
    (served : Serves (group.elector id).namespace (group.elector id).leaseName (w.wallAt w.clock)
      w.store after q a) :
    (∃ k k', Effect ((group.elector id).Campaigns (w.wallAt w.clock)) w.store after k k') ∧
      group.Fits { w with store := after, stage := stages } id (.inRound purpose (next a)) := by
  obtain ⟨k, informed, purposeful, may, follows⟩ := fits
  have effect := effect_of_serves h.lawful informed.read may served
  refine ⟨⟨k, _, effect⟩, k.next q a, ⟨?_, ?_⟩, ?_, follows a served.shows⟩
  · exact known_next h.lawful informed.read served effect
  · intro wrote
    exact holds_of_wrote wrote informed.wrote h.agrees member effect
  · cases purpose with
    | acquire => trivial
    | conclude lastRenewed => trivial
    | renew lastRenewed =>
        obtain ⟨held, schedule, named⟩ := purposeful
        refine ⟨holds_after held schedule.ge h.agrees member effect, schedule, ?_⟩
        intro l known
        rcases read_next served known with old | new
        · exact named l old
        · exact held.named new

/-- An answer while the lease is handed back changes the lease only as the replica may. -/
theorem Fits.askedBack {next : Answer q → Election Unit} (h : group.Invariant w)
    (fits : group.Fits w id (.resigning (.ask q next)))
    (served : Serves (group.elector id).namespace (group.elector id).leaseName (w.wallAt w.clock)
      w.store after q a) :
    (∃ k k', Effect (group.elector id).Resigns w.store after k k') ∧
      group.Fits { w with store := after, stage := stages } id (.resigning (next a)) := by
  obtain ⟨k, read, may, follows⟩ := fits
  have effect := effect_of_serves h.lawful read may served
  exact ⟨⟨k, _, effect⟩, k.next q a, known_next h.lawful read served effect,
    follows a served.shows⟩

end Asks

/-- A replica whose round succeeded leads with the lease in its name. -/
theorem fits_leading (held : group.Holds w id w.clock) :
    group.Fits w id (.leading w.clock (w.clock + (group.elector id).retryPeriod.millis)) :=
  ⟨held, Nat.le_add_right _ _, onSchedule_retry w.clock⟩

/-- A round leads to what fits the replica that it was for. -/
theorem Fits.ended {purpose : Purpose} {result : Round} (nonempty : id ≠ "")
    (fits : group.Fits w id (.inRound purpose (.done result))) :
    group.Fits w id (Stage.afterRound (group.elector id) w.clock result purpose) := by
  obtain ⟨k, informed, purposeful, reports⟩ := fits
  cases purpose with
  | acquire =>
      cases result with
      | held => exact fits_leading (informed.wrote reports)
      | notHeld => trivial
      | failed cause => trivial
      | crashed => trivial
  | renew lastRenewed =>
      obtain ⟨held, schedule, named⟩ := purposeful
      cases result with
      | held => exact fits_leading (informed.wrote reports)
      | notHeld => trivial
      | failed cause =>
          by_cases early : w.clock - lastRenewed < (group.elector id).renewDeadline.millis
          · rw [Stage.afterRound_of_lt cause early]
            exact ⟨held, Nat.le_add_right _ _, schedule.next early⟩
          · rw [Stage.afterRound_of_le cause (not_lt.mp early)]
            trivial
      | crashed =>
          -- The lease names the leader, so its end does not matter.
          obtain ⟨l, known, undecided⟩ := reports
          obtain ⟨s, stood, holder⟩ := named l known
          have renews : Lease.decide l.spec id (w.wallAt w.clock) = some .renew := by
            rw [stood]
            exact Lease.decide_of_holder _ (Lease.holder?_of_ne holder nonempty)
          exact absurd (renews.symm.trans undecided) nofun
  | conclude lastRenewed =>
      simp only [Stage.afterRound]
      cases Renewal.after (group.elector id) lastRenewed w.clock result with
      | leading renewed => trivial
      | lost => trivial
      | stopped => trivial

theorem Fits.shutDown (fits : group.Fits w id stage) : group.Fits w id stage.shutDown := by
  cases stage with
  | idle => exact fits
  | waiting due => trivial
  | leading lastRenewed due => trivial
  | stalled => trivial
  | retired => exact fits
  | resigning rest => exact fits
  | inRound purpose rest =>
      cases purpose with
      | acquire => exact fits
      | conclude lastRenewed => exact fits
      | renew lastRenewed =>
          obtain ⟨k, informed, -, follows⟩ := fits
          exact ⟨k, informed, trivial, follows⟩

end Steps

/-- Time that passes while nobody is asked anything, and no longer than everybody sleeps, changes
nothing. -/
theorem Fits.passed {later : Nat} {stage : Stage} (fits : group.Fits w id stage)
    (rest : stage.RestsUntil later) : group.Fits { w with clock := later } id stage := by
  cases stage with
  | idle => trivial
  | waiting due => trivial
  | retired => trivial
  | stalled => exact fits
  | leading lastRenewed due =>
      obtain ⟨held, -, schedule⟩ := fits
      exact ⟨held, rest, schedule⟩
  | inRound purpose rest' => exact rest.elim
  | resigning rest' => exact rest.elim

variable {w' : World}

/-- Every step keeps the invariant when leaders give up before others take over. -/
theorem Invariant.step (h : group.Invariant w)
    (timely : group.config.secondsToGiveUp ≤ group.config.secondsToTakeOver)
    (step : group.Step w w') : group.Invariant w' := by
  cases step with
  | passes forward rest =>
      exact ⟨h.lawful, h.agrees, fun id member => (h.fits id member).passed (rest id member)⟩
  | @moves id stage store member move =>
      have fits := h.fits id member
      have nothing : Effect (fun _ _ => False) w.store w.store {} {} := .kept rfl rfl
      have quiet (stage' : Stage) (suits : group.Fits w id stage') :
          group.Invariant { w with stage := Function.update w.stage id stage' } :=
        h.moved timely member nothing (fun _ _ no => no.elim)
          (suits.carried (List.Subset.refl _) fun _ _ held => held)
      generalize standing : w.stage id = current at move fits
      cases move with
      | enters => exact quiet _ (fits_round trivial)
      | retries isDue => exact quiet _ (fits_round trivial)
      | @renews lastRenewed due isDue =>
          obtain ⟨held, before, schedule⟩ := fits
          have now : w.clock = due := le_antisymm before isDue
          exact quiet _ (fits_round ⟨held, now ▸ schedule, fun l known => nomatch known⟩)
      | asks served =>
          obtain ⟨⟨k, k', effect⟩, suits⟩ := fits.asked h member served
          exact h.moved timely member effect (fun _ _ campaigns => .inl campaigns) suits
      | ends => exact quiet _ (fits.ended (group.named id member))
      | shutsDown => exact quiet _ fits.shutDown
      | releases held => exact quiet _ fits_release
      | drops held => exact quiet _ trivial
      | asksBack served =>
          obtain ⟨⟨k, k', effect⟩, suits⟩ := fits.askedBack h served
          exact h.moved timely member effect (fun _ _ resigns => .inr resigns) suits
      | leaves => exact quiet _ trivial

/-- The invariant holds in every run of replicas that give up before others take over. -/
theorem Reachable.invariant (h : group.Reachable w)
    (timely : group.config.secondsToGiveUp ≤ group.config.secondsToTakeOver) :
    group.Invariant w := by
  obtain ⟨start, begins, run⟩ := h
  induction run with
  | refl => exact begins.invariant
  | tail _ step ih => exact ih.step timely step

end MachineProvider.Replicas
