import MachineProvider.Proofs.Lease.Electorate
import MachineProvider.Proofs.Lease.Invariant

/-!
# A lease is left to its holder until it expires

When a round of an elector takes effect, the lease names the elector, and others leave it alone until
it expires, counted from what the clock showed when the round began. This is so although a round reads
and writes at different times, for whoever reads a lease that is written meanwhile does not write it
(`Reachable.lease_respected`).
-/

namespace MachineProvider

open Procedure

namespace Electorate

open Election Elector Replicas

variable {ι : Type} {w : World ι}

/-- Whether a write was that of a round. -/
def Entry.IsCampaign (e : Entry ι) : Prop :=
  ∃ number reading, e.deed = .campaign number reading

/-- Whether a write was that of a round which read the clock at `reading`, and left a lease of this
duration. -/
def Entry.Leaves (e : Entry ι) (reading : Int) (duration : Int32) : Prop :=
  (∃ number, e.deed = .campaign number reading) ∧
    ∃ s, e.stored.spec = some s ∧ s.leaseDurationSeconds = some duration

/-- Whether an elector has handed the lease back in some of the writes. -/
def HandedBack (i : ι) (entries : List (Entry ι)) : Prop :=
  ∃ e ∈ entries, e.author = i ∧ e.deed = .release

/-- Whether a write of this round of an elector has taken effect. -/
def World.Notes (w : World ι) (i : ι) (number : Nat) : Prop :=
  ∃ e ∈ w.log, e.author = i ∧ ∃ reading, e.deed = .campaign number reading

/-- Whether a record names a holder, for so long since it was renewed, at `reading` or later. -/
def Names (record : Option LeaseSpec) (identity : String) (reading : Int) (duration : Int32) : Prop :=
  ∃ s renewed, record = some s ∧ s.holderIdentity = some identity ∧
    s.leaseDurationSeconds = some duration ∧ s.renewTime = some (.ofMicros renewed) ∧
    reading ≤ renewed

variable (group : Electorate ι)

/-- How an elector may change the record of the lease. -/
def MayWrite (i : ι) (before after : Option LeaseSpec) : Deed → Prop
  | .campaign _ reading => (group.elector i).Campaigns (.ofMicros reading) before after
  | .release => (group.elector i).Resigns before after

/-- Whether a write that was followed by others still keeps the lease for its author, unless the author
has handed it back or the time is over. -/
def Stands (w : World ι) (first : Entry ι) (since : List (Entry ι)) : Prop :=
  ∀ reading duration, first.Leaves reading duration →
    HandedBack first.author since ∨ reading + duration.toInt * 1000000 < w.clock ∨
      Names (recorded w.store) (group.elector first.author).identity reading duration

/-- What is true of a round in progress. -/
structure Fits (w : World ι) (i : ι) (attempt : Attempt) : Prop where
  number : attempt.number = w.begun i
  reading : attempt.reading ≤ w.clock
  last : ∀ e ∈ w.log, e.author = i → ∀ number reading, e.deed = .campaign number reading →
    reading ≤ attempt.reading
  rest : ∃ k, (∀ l, k.read = some l → l ∈ w.store.versions) ∧
    (k.wrote = true ↔ w.Notes i attempt.number) ∧
    attempt.rest.Follows (rules ((group.elector i).Campaigns (.ofMicros attempt.reading)))
      ((group.elector i).Concludes (.ofMicros attempt.reading)) k

/-- What is true of an elector that hands the lease back. -/
def Resigning (w : World ι) (i : ι) (rest : Election Unit) : Prop :=
  ∃ k : Knowledge, (∀ l, k.read = some l → l ∈ w.store.versions) ∧
    rest.Follows (rules (group.elector i).Resigns) (fun _ _ => True) k

/-- What is true of the writes that took effect. -/
structure Sound (w : World ι) : Prop where
  lawful : w.store.Lawful
  begun : ∀ e ∈ w.log, ∀ number reading, e.deed = .campaign number reading →
    number ≤ w.begun e.author ∧ reading ≤ w.clock
  stands : ∀ since first earlier, w.log = since ++ first :: earlier → group.Stands w first since
  respected : ∀ later second between first earlier,
    w.log = later ++ second :: (between ++ first :: earlier) →
    ∀ reading duration, first.Leaves reading duration → second.IsCampaign →
      second.author ≠ first.author →
      HandedBack first.author between ∨ reading + duration.toInt * 1000000 < second.instant

/-- What is true in every run. -/
structure Invariant (w : World ι) : Prop extends group.Sound w where
  attempts : ∀ i attempt, w.attempt i = some attempt → group.Fits w i attempt
  resignations : ∀ i rest, w.resignation i = some rest → group.Resigning w i rest

section Exchange

variable {α : Type} {n nm : String} {wall : Timestamp} {store : Store Lease}
  {mayFollow : Option LeaseSpec → Option LeaseSpec → Prop} {post : α → Knowledge → Prop}
  {p rest : Election α} {k : Knowledge} {stored : Option Lease}

/-- What comes of an exchange: a write is known to have been accepted exactly when it took effect, and
then its record may follow the one before. -/
structure Outcome (mayFollow : Option LeaseSpec → Option LeaseSpec → Prop) (store : Store Lease)
    (k : Knowledge) (stored : Option Lease) (k' : Knowledge) : Prop where
  wrote : k'.wrote = (k.wrote || stored.isSome)
  written : ∀ v, stored = some v → store.IsFresh v ∧ mayFollow (recorded store) v.spec

/-- The store after an exchange. -/
def afterExchange (store : Store Lease) : Option Lease → Store Lease
  | none => store
  | some v => store.put v

theorem ne_put (v : Lease) : store ≠ store.put v := by
  intro same
  have longer := congrArg (fun s => s.versions.length) same
  simp [Store.put] at longer

/-- Only an accepted write takes effect. -/
theorem wrote_of_serves_put {q : Question} {a : Answer q} {v : Lease}
    (served : Serves n nm wall store (store.put v) q a) : (k.next q a).wrote = true := by
  cases q with
  | now => exact absurd served.2.symm (ne_put v)
  | fetch m mm =>
      cases a with
      | ok lease => exact absurd served.2.2.2.symm (ne_put v)
      | error failure => exact absurd (Eq.symm served) (ne_put v)
  | create m mm lease =>
      cases a with
      | ok done => rfl
      | error failure => exact absurd (Eq.symm served) (ne_put v)
  | replace m mm lease =>
      cases a with
      | ok done => rfl
      | error failure => exact absurd (Eq.symm served) (ne_put v)

theorem put_injective {v v' : Lease} (same : store.put v = store.put v') : v = v' :=
  Option.some.inj (congrArg Store.current same)

/-- A procedure that writes only what it may goes on so after an exchange. -/
theorem Exchange.follows (h : Exchange n nm wall store p rest stored) (lawful : store.Lawful)
    (known : ∀ l, k.read = some l → l ∈ store.versions) (follows : p.Follows (rules mayFollow) post k) :
    ∃ k', Outcome mayFollow store k stored k' ∧
      (∀ l, k'.read = some l → l ∈ (afterExchange store stored).versions) ∧
      rest.Follows (rules mayFollow) post k' := by
  cases h with
  | @nothing q next a served =>
      have effect := effect_of_serves lawful known follows.1.2 served
      refine ⟨k.next q a, ⟨?_, ?_⟩, known_next lawful known served effect, follows.2 a trivial⟩
      · cases effect with
        | kept same unwritten => simp [unwritten]
        | @stored v fresh put mayFollow => exact absurd put (ne_put v)
      · intro v none
        cases none
  | @stored q next a v served =>
      have effect := effect_of_serves lawful known follows.1.2 served
      refine ⟨k.next q a, ⟨?_, ?_⟩, known_next lawful known served effect, follows.2 a trivial⟩
      · rw [wrote_of_serves_put served]
        simp
      · rintro v' ⟨⟩
        cases effect with
        | kept same unwritten => exact absurd same.symm (ne_put v)
        | @stored v' fresh put mayFollow =>
            obtain rfl := put_injective put
            exact ⟨fresh, mayFollow⟩

end Exchange

variable {group : Electorate ι} {i : ι} {deed : Deed} {v : Lease}

theorem Names.of_campaigns {e : Elector} {reading : Int} {duration : Int32}
    {before after : Option LeaseSpec} (h : e.Campaigns (.ofMicros reading) before after)
    (lasts : ∃ s, after = some s ∧ s.leaseDurationSeconds = some duration) :
    Names after e.identity reading duration := by
  obtain ⟨s, rfl, lasts⟩ := lasts
  cases h with
  | renews stood holder stands =>
      obtain rfl := Option.some.inj stands
      exact ⟨_, reading, rfl, holder, lasts, rfl, le_rfl⟩
  | takes free stands claims =>
      obtain rfl := Option.some.inj stands
      exact ⟨_, reading, rfl, claims.holder, lasts, claims.renewTime, le_rfl⟩

/-- The holder of a lease can only renew it, and does not make it shorter. -/
theorem Names.renewed {e : Elector} (named : e.identity ≠ "") {reading now : Int} {duration : Int32}
    {before after : Option LeaseSpec} (h : Names before e.identity reading duration)
    (campaigns : e.Campaigns (.ofMicros now) before after) (later : reading ≤ now) :
    Names after e.identity reading duration := by
  obtain ⟨s, instant, rfl, holder, lasts, renewed, since⟩ := h
  cases campaigns with
  | renews stood _ stands =>
      obtain rfl := Option.some.inj stood
      exact ⟨_, now, stands, holder, lasts, rfl, later⟩
  | takes free stands claims =>
      have renews := Lease.decide_of_holder (.ofMicros now) (Lease.holder?_of_ne holder named)
      rw [renews] at free
      cases Option.some.inj free

/-- Somebody else takes a lease only when it has expired. -/
theorem Names.lt_of_campaigns {e : Elector} {identity : String} (named : identity ≠ "")
    (ne : identity ≠ e.identity) {reading now : Int} {duration : Int32}
    {before after : Option LeaseSpec} (h : Names before identity reading duration)
    (campaigns : e.Campaigns (.ofMicros now) before after) :
    reading + duration.toInt * 1000000 < now := by
  obtain ⟨s, instant, rfl, holder, lasts, renewed, since⟩ := h
  cases campaigns with
  | renews stood held _ =>
      obtain rfl := Option.some.inj stood
      exact absurd (Option.some.inj (holder.symm.trans held)) ne
  | takes free _ _ =>
      have expired := Lease.expired_of_takeOver holder named free
      have passed := Lease.lt_of_isExpired? renewed lasts expired
      omega

/-- Nobody else hands a lease back. -/
theorem Names.not_resigns {e : Elector} {identity : String} (ne : identity ≠ e.identity)
    {reading : Int} {duration : Int32} {before after : Option LeaseSpec}
    (h : Names before identity reading duration) : ¬ e.Resigns before after := by
  obtain ⟨s, instant, rfl, holder, -⟩ := h
  rintro ⟨⟨spec, stood, held⟩, -⟩
  obtain rfl := Option.some.inj stood
  exact ne (Option.some.inj (holder.symm.trans held))

/-- Whether a write comes at its time: the round has begun, and it read the clock after the earlier
rounds of the elector did. -/
def Timely (w : World ι) (i : ι) : Deed → Prop
  | .campaign number reading =>
    number ≤ w.begun i ∧ reading ≤ w.clock ∧
      ∀ e ∈ w.log, e.author = i → ∀ n earlier, e.deed = .campaign n earlier → earlier ≤ reading
  | .release => True

/-- When another elector writes, a write that kept the lease no longer does. -/
theorem Stands.of_other {first : Entry ι} {since : List (Entry ι)} {after : Option LeaseSpec}
    (h : group.Stands w first since) (ne : i ≠ first.author)
    (write : group.MayWrite i (recorded w.store) after deed) (timely : Timely w i deed)
    {reading : Int} {duration : Int32} (leaves : first.Leaves reading duration) :
    HandedBack first.author since ∨ reading + duration.toInt * 1000000 < w.clock := by
  rcases h reading duration leaves with back | expired | names
  · exact .inl back
  · exact .inr expired
  have other : (group.elector first.author).identity ≠ (group.elector i).identity :=
    fun same => ne (group.distinct same).symm
  cases deed with
  | campaign number now =>
      have passed := names.lt_of_campaigns (group.named _) other write
      exact .inr (passed.trans_le timely.2.1)
  | release => exact absurd write (names.not_resigns other)

theorem HandedBack.cons {entries : List (Entry ι)} (h : HandedBack i entries) (e : Entry ι) :
    HandedBack i (e :: entries) := by
  obtain ⟨back, member, author, release⟩ := h
  exact ⟨back, List.mem_cons_of_mem e member, author, release⟩

/-- A write that took effect leaves alone what stands. -/
theorem Sound.stands_written (h : group.Sound w)
    (write : group.MayWrite i (recorded w.store) v.spec deed) (timely : Timely w i deed)
    {since earlier : List (Entry ι)} {first : Entry ι}
    (split : (w.exchanged i deed (some v)).log = since ++ first :: earlier) :
    group.Stands (w.exchanged i deed (some v)) first since := by
  intro reading duration leaves
  rcases List.cons_eq_append_iff.mp split with ⟨rfl, newest⟩ | ⟨since, rfl, past⟩
  · -- The write is the one that was made last.
    obtain ⟨rfl, rfl⟩ := List.cons.inj newest
    obtain ⟨⟨number, rfl⟩, lasts⟩ := leaves
    exact .inr (.inr (.of_campaigns write lasts))
  have stands := h.stands since first earlier past
  by_cases own : i = first.author
  · subst own
    cases deed with
    | release => exact .inl ⟨_, List.mem_cons_self, rfl, rfl⟩
    | campaign number now =>
        rcases stands reading duration leaves with back | expired | names
        · exact .inl (back.cons _)
        · exact .inr (.inl expired)
        · obtain ⟨⟨n, began⟩, -⟩ := leaves
          have member : first ∈ w.log := past ▸ List.mem_append_right since List.mem_cons_self
          have later := timely.2.2 first member rfl n reading began
          exact .inr (.inr (names.renewed (group.named _) write later))
  · rcases stands.of_other own write timely leaves with back | expired
    · exact .inl (back.cons _)
    · exact .inr (.inl expired)

/-- What took effect stays sound when another write takes effect. -/
theorem Sound.exchanged (h : group.Sound w) {stored : Option Lease} (timely : Timely w i deed)
    (written : ∀ v, stored = some v →
      w.store.IsFresh v ∧ group.MayWrite i (recorded w.store) v.spec deed) :
    group.Sound (w.exchanged i deed stored) := by
  cases stored with
  | none => exact h
  | some v =>
      obtain ⟨fresh, write⟩ := written v rfl
      refine ⟨h.lawful.put fresh, ?_, fun _ _ _ => h.stands_written write timely, ?_⟩
      · intro e member number reading began
        rcases List.mem_cons.mp member with rfl | old
        · obtain rfl : deed = .campaign number reading := began
          exact ⟨timely.1, timely.2.1⟩
        · exact h.begun e old number reading began
      · intro later second between first earlier split reading duration leaves campaign ne
        rcases List.cons_eq_append_iff.mp split with ⟨rfl, newest⟩ | ⟨later, rfl, past⟩
        · obtain ⟨rfl, past⟩ := List.cons.inj newest
          exact (h.stands between first earlier past.symm).of_other ne write timely leaves
        · exact h.respected later second between first earlier past reading duration leaves campaign ne

section Parties

variable {attempt : Attempt} {w' : World ι}

/-- A round in progress is not affected by what others do. -/
theorem Fits.carried (h : group.Fits w i attempt) (clock : w.clock ≤ w'.clock)
    (begun : w'.begun i = w.begun i) (versions : w.store.versions ⊆ w'.store.versions)
    (log : ∀ e : Entry ι, e.author = i → e.IsCampaign → (e ∈ w'.log ↔ e ∈ w.log)) :
    group.Fits w' i attempt where
  number := h.number.trans begun.symm
  reading := h.reading.trans clock
  last := by
    intro e member author number reading campaign
    exact h.last e ((log e author ⟨number, reading, campaign⟩).mp member) author number reading campaign
  rest := by
    obtain ⟨k, read, wrote, follows⟩ := h.rest
    refine ⟨k, fun l known => versions (read l known), wrote.trans ?_, follows⟩
    constructor
    · rintro ⟨e, member, author, reading, campaign⟩
      exact ⟨e, (log e author ⟨_, reading, campaign⟩).mpr member, author, reading, campaign⟩
    · rintro ⟨e, member, author, reading, campaign⟩
      exact ⟨e, (log e author ⟨_, reading, campaign⟩).mp member, author, reading, campaign⟩

theorem Fits.of_same (h : group.Fits w i attempt) (clock : w'.clock = w.clock)
    (begun : w'.begun i = w.begun i) (store : w'.store = w.store) (log : w'.log = w.log) :
    group.Fits w' i attempt := by
  refine h.carried clock.ge begun ?_ ?_
  · rw [store]
    exact List.Subset.refl _
  · intro e _ _
    rw [log]

theorem Resigning.carried {rest : Election Unit} (h : group.Resigning w i rest)
    (versions : w.store.versions ⊆ w'.store.versions) : group.Resigning w' i rest := by
  obtain ⟨k, read, follows⟩ := h
  exact ⟨k, fun l known => versions (read l known), follows⟩

theorem Fits.timely (h : group.Fits w i attempt) :
    Timely w i (.campaign attempt.number attempt.reading) :=
  ⟨h.number.le, h.reading, h.last⟩

theorem store_exchanged (stored : Option Lease) :
    (w.exchanged i deed stored).store = afterExchange w.store stored := by
  cases stored <;> rfl

/-- A round that begins now reads the clock later than every round before. -/
theorem Sound.fits_begun (h : group.Sound w) {next : Timestamp → Election Round}
    (opens : (group.elector i).round = .ask .now next) (counted : w'.begun i = w.begun i + 1)
    (clock : w'.clock = w.clock) (log : w'.log = w.log) :
    group.Fits w' i ⟨w.begun i + 1, w.clock, next (.ofMicros w.clock)⟩ where
  number := counted.symm
  reading := clock.ge
  last := by
    rintro e member rfl number reading campaign
    exact (h.begun e (log ▸ member) number reading campaign).2
  rest := by
    refine ⟨{}, ?_, iff_of_false nofun ?_, follows_of_round opens⟩
    · intro l known
      cases known
    · rintro ⟨e, member, rfl, reading, campaign⟩
      exact absurd (h.begun e (log ▸ member) _ reading campaign).1 (by simp)

/-- A round goes on after an exchange, and what it writes it may write. -/
theorem Fits.exchanged {n nm : String} {wall : Timestamp} {rest : Election Round}
    {stored : Option Lease} (h : group.Fits w i attempt) (lawful : w.store.Lawful)
    (exchange : Exchange n nm wall w.store attempt.rest rest stored) :
    group.Fits (w.exchanged i (.campaign attempt.number attempt.reading) stored) i
        { attempt with rest } ∧
      ∀ v, stored = some v → w.store.IsFresh v ∧ group.MayWrite i (recorded w.store) v.spec
        (.campaign attempt.number attempt.reading) := by
  obtain ⟨k, read, wrote, follows⟩ := h.rest
  obtain ⟨k', outcome, read', follows'⟩ := exchange.follows lawful read follows
  refine ⟨⟨?_, ?_, ?_, k', ?_, ?_, follows'⟩, outcome.written⟩
  · rw [World.begun_exchanged]
    exact h.number
  · rw [World.clock_exchanged]
    exact h.reading
  · cases stored with
    | none => exact h.last
    | some v =>
        intro e member author number reading campaign
        rcases List.mem_cons.mp member with rfl | old
        · cases campaign
          exact le_rfl
        · exact h.last e old author number reading campaign
  · rw [store_exchanged]
    exact read'
  · rw [outcome.wrote]
    cases stored with
    | none =>
        rw [Option.isSome_none, Bool.or_false]
        exact wrote
    | some v =>
        refine iff_of_true (by simp) ?_
        exact ⟨_, List.mem_cons_self, rfl, attempt.reading, rfl⟩

/-- Handing back goes on after an exchange, and what is written may be written. -/
theorem Resigning.exchanged {n nm : String} {wall : Timestamp} {release rest : Election Unit}
    {stored : Option Lease} (h : group.Resigning w i release) (lawful : w.store.Lawful)
    (exchange : Exchange n nm wall w.store release rest stored) :
    group.Resigning (w.exchanged i .release stored) i rest ∧
      ∀ v, stored = some v → w.store.IsFresh v ∧
        group.MayWrite i (recorded w.store) v.spec .release := by
  obtain ⟨k, read, follows⟩ := h
  obtain ⟨k', outcome, read', follows'⟩ := exchange.follows lawful read follows
  refine ⟨⟨k', ?_, follows'⟩, outcome.written⟩
  rw [store_exchanged]
  exact read'

end Parties

theorem World.Begins.invariant (h : w.Begins) : group.Invariant w where
  lawful := h.lawful
  begun := by
    intro e member
    rw [h.log] at member
    cases member
  stands := by
    intro since first earlier split
    rw [h.log] at split
    simp at split
  respected := by
    intro later second between first earlier split
    rw [h.log] at split
    simp at split
  attempts := by
    intro i attempt current
    rw [h.attempt i] at current
    cases current
  resignations := by
    intro i rest current
    rw [h.resignation i] at current
    cases current

/-- Time that passes does not harm what took effect. -/
theorem Sound.passed (h : group.Sound w) {later : Int} (forward : w.clock ≤ later) :
    group.Sound { w with clock := later } where
  lawful := h.lawful
  begun := by
    intro e member number reading campaign
    obtain ⟨began, before⟩ := h.begun e member number reading campaign
    exact ⟨began, before.trans forward⟩
  stands := by
    intro since first earlier split reading duration leaves
    rcases h.stands since first earlier split reading duration leaves with back | expired | names
    · exact .inl back
    · exact .inr (.inl (expired.trans_le forward))
    · exact .inr (.inr names)
  respected := h.respected

variable [DecidableEq ι] {w' : World ι}

/-- A change at one point leaves alone what is true at the others. -/
theorem forall_update {β : Type} {P : ι → β → Prop} {f : ι → Option β} {b : Option β}
    (others : ∀ j, j ≠ i → ∀ a, f j = some a → P j a) (here : ∀ a, b = some a → P i a) :
    ∀ j a, Function.update f i b j = some a → P j a := by
  intro j a current
  by_cases same : j = i
  · subst same
    rw [Function.update_self] at current
    exact here a current
  · rw [Function.update_of_ne same] at current
    exact others j same a current

/-- Every step keeps the invariant. -/
theorem Invariant.step (h : group.Invariant w) (step : group.Step w w') : group.Invariant w' := by
  cases step with
  | @passes later forward =>
      refine ⟨h.toSound.passed forward, ?_, h.resignations⟩
      intro i attempt current
      exact (h.attempts i attempt current).carried forward rfl (List.Subset.refl _) fun _ _ _ => Iff.rfl
  | @begins i next free opens =>
      refine ⟨⟨h.lawful, ?_, h.stands, h.respected⟩, ?_, h.resignations⟩
      · intro e member number reading campaign
        obtain ⟨began, before⟩ := h.begun e member number reading campaign
        refine ⟨began.trans ?_, before⟩
        by_cases own : e.author = i <;> simp [own]
      · refine forall_update ?_ ?_
        · intro j ne attempt current
          exact (h.attempts j attempt current).of_same rfl (Function.update_of_ne ne _ _) rfl rfl
        · rintro attempt ⟨⟩
          exact h.toSound.fits_begun opens (Function.update_self ..) rfl rfl
  | @asks i attempt rest stored current exchange =>
      have fits := h.attempts i attempt current
      obtain ⟨fits', written⟩ := fits.exchanged h.lawful exchange
      have sound := h.toSound.exchanged fits.timely written
      refine ⟨⟨sound.lawful, sound.begun, sound.stands, sound.respected⟩, ?_, ?_⟩
      · refine forall_update ?_ ?_
        · intro j ne attempt' current'
          refine (h.attempts j attempt' current').carried ?_ ?_ (w.versions_subset_exchanged ..) ?_
          · exact (w.clock_exchanged ..).ge
          · exact congrFun (w.begun_exchanged ..) j
          · intro e author _
            exact w.mem_log_exchanged _ _ _ fun own => absurd (author.symm.trans own) ne
        · rintro attempt' ⟨⟩
          exact fits'.of_same rfl rfl rfl rfl
      · intro j rest' current'
        rw [World.resignation_exchanged] at current'
        exact (h.resignations j rest' current').carried (w.versions_subset_exchanged ..)
  | @ends i =>
      refine ⟨⟨h.lawful, h.begun, h.stands, h.respected⟩, ?_, h.resignations⟩
      refine forall_update ?_ nofun
      intro j _ attempt current
      exact (h.attempts j attempt current).of_same rfl rfl rfl rfl
  | @resigns i =>
      refine ⟨⟨h.lawful, h.begun, h.stands, h.respected⟩, ?_, forall_update ?_ ?_⟩
      · intro j attempt current
        exact (h.attempts j attempt current).of_same rfl rfl rfl rfl
      · intro j _ rest current
        exact h.resignations j rest current
      · rintro rest ⟨⟩
        refine ⟨{}, ?_, follows_release⟩
        intro l known
        cases known
  | @asksBack i release rest stored current exchange =>
      obtain ⟨resigning, written⟩ := (h.resignations i release current).exchanged h.lawful exchange
      have timely : Timely w i .release := trivial
      have sound := h.toSound.exchanged timely written
      refine ⟨⟨sound.lawful, sound.begun, sound.stands, sound.respected⟩, ?_, ?_⟩
      · intro j attempt current'
        rw [World.attempt_exchanged] at current'
        refine (h.attempts j attempt current').carried ?_ ?_ (w.versions_subset_exchanged ..) ?_
        · exact (w.clock_exchanged ..).ge
        · exact congrFun (w.begun_exchanged ..) j
        · rintro e - ⟨number, reading, campaign⟩
          exact w.mem_log_exchanged _ _ _ fun _ back => nomatch campaign.symm.trans back
      · refine forall_update ?_ ?_
        · intro j _ rest' current'
          exact (h.resignations j rest' current').carried (w.versions_subset_exchanged ..)
        · rintro rest' ⟨⟩
          exact resigning

theorem Reachable.invariant (h : group.Reachable w) : group.Invariant w := by
  obtain ⟨start, begins, run⟩ := h
  induction run with
  | refl => exact begins.invariant
  | tail _ step ih => exact ih.step step

/-- When a round takes effect, no round of another elector does so until the lease expires, unless the
elector hands it back. And a round is a success exactly when its own write took effect. -/
theorem Reachable.lease_respected (h : group.Reachable w) :
    (∀ later second between first earlier,
      w.log = later ++ second :: (between ++ first :: earlier) →
      ∀ reading duration, first.Leaves reading duration → second.IsCampaign →
        second.author ≠ first.author →
        HandedBack first.author between ∨ reading + duration.toInt * 1000000 < second.instant) ∧
      ∀ i number reading result, w.attempt i = some ⟨number, reading, .done result⟩ →
        (result = .held ↔ w.Notes i number) := by
  have invariant := h.invariant
  refine ⟨invariant.respected, ?_⟩
  intro i number reading result current
  obtain ⟨k, -, wrote, concludes⟩ := (invariant.attempts i _ current).rest
  exact concludes.held_iff.trans wrote

/-- Two electors whose leases last for 15 seconds. -/
def sample : Electorate Bool where
  «namespace» := "default"
  leaseName := "capdc"
  elector other :=
    { «namespace» := "default"
      leaseName := "capdc"
      identity := if other then "pod-b" else "pod-a"
      leaseDuration := .ofSeconds 15
      renewDeadline := .ofSeconds 10
      retryPeriod := .ofSeconds 2 }
  named := by decide
  distinct := by decide

/-- Both electors find that there is no lease, and one of them makes it. The other one takes it over
when it has expired. -/
theorem lease_respected_of_sample : ∃ w first second,
    sample.Reachable w ∧ w.log = [second, first] ∧ first.Leaves 0 15 ∧ second.IsCampaign ∧
      second.author ≠ first.author ∧ 0 + (15 : Int32).toInt * 1000000 < second.instant ∧
      w.attempt true = some ⟨2, 16000000, .done .held⟩ ∧ w.Notes true 2 := by
  let start : World Bool := ⟨0, .empty, [], fun _ => 0, fun _ => none, fun _ => none⟩
  have begins : start.Begins := ⟨.empty, rfl, fun _ => rfl, fun _ => rfl⟩
  -- Both of them read before one of them writes.
  have absent : Serves "default" "capdc" (.ofMicros 0) .empty .empty
      (.fetch "default" "capdc") (.error (.refused "not found" "NotFound" 404)) := rfl
  let made : Lease :=
    { (sample.elector false).newLease (.ofMicros 0) with
      metadata := { resourceVersion := some "1" } }
  let taken : Lease :=
    { (sample.elector true).taken made 0 (.ofMicros 16000000) with
      metadata := { resourceVersion := some "2" } }
  have created : Serves "default" "capdc" (.ofMicros 0) .empty (Store.empty.put made)
      (.create "default" "capdc" ((sample.elector false).newLease (.ofMicros 0))) (.ok ()) :=
    ⟨rfl, rfl, rfl, made, .empty rfl, rfl, rfl⟩
  have refused : Serves "default" "capdc" (.ofMicros 0) (Store.empty.put made) (Store.empty.put made)
      (.create "default" "capdc" ((sample.elector true).newLease (.ofMicros 0)))
      (.error (.refused "it exists" "AlreadyExists" 409)) := rfl
  have read : Serves "default" "capdc" (.ofMicros 16000000) (Store.empty.put made)
      (Store.empty.put made) (.fetch "default" "capdc") (.ok made) := ⟨rfl, rfl, rfl, rfl⟩
  have takenOver : Serves "default" "capdc" (.ofMicros 16000000) (Store.empty.put made)
      ((Store.empty.put made).put taken)
      (.replace "default" "capdc" ((sample.elector true).taken made 0 (.ofMicros 16000000)))
      (.ok ()) :=
    ⟨rfl, rfl, ⟨made, rfl, .inr rfl⟩, taken, .of_not_mem rfl (by decide), rfl, rfl⟩
  have w1 := (Relation.ReflTransGen.refl (r := sample.Step) (a := start)).tail
    (.begins (i := false) rfl rfl)
  have w2 := w1.tail (.begins (i := true) rfl rfl)
  have w3 := w2.tail (.asks (i := false) rfl (.nothing absent))
  have w4 := w3.tail (.asks (i := true) rfl (.nothing absent))
  have w5 := w4.tail (.asks (i := false) rfl (.stored created))
  have w6 := w5.tail (.asks (i := true) rfl (.nothing refused))
  have w7 := w6.tail (.ends (i := true))
  have w8 := w7.tail (.passes (show (0 : Int) ≤ 16000000 by decide))
  have w9 := w8.tail (.begins (i := true) rfl rfl)
  have w10 := w9.tail (.asks (i := true) rfl (.nothing read))
  have w11 := w10.tail (.asks (i := true) rfl (.stored takenOver))
  have run : sample.Reachable _ := ⟨start, begins, w11⟩
  obtain ⟨respected, success⟩ := run.lease_respected
  let first : Entry Bool := ⟨false, .campaign 1 0, 0, made⟩
  let second : Entry Bool := ⟨true, .campaign 2 16000000, 16000000, taken⟩
  have leaves : first.Leaves 0 15 := ⟨⟨1, rfl⟩, _, rfl, rfl⟩
  have campaign : second.IsCampaign := ⟨2, 16000000, rfl⟩
  have ne : second.author ≠ first.author := by decide
  have kept := respected [] second [] first [] rfl 0 15 leaves campaign ne
  refine ⟨_, first, second, run, rfl, leaves, campaign, ne, ?_, rfl, ?_⟩
  · rcases kept with ⟨_, member, _⟩ | expired
    · cases member
    · exact expired
  · exact (success true 2 _ _ rfl).mp rfl

end Electorate

end MachineProvider
