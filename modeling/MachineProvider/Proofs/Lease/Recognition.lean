import MachineProvider.Proofs.Json
import MachineProvider.Proofs.Lease.Course
import MachineProvider.Proofs.Lease.Timing
import MachineProvider.Proofs.Timestamp

/-!
# Whether the holder of a lease is recognised

A replica that acquires the lease writes its identity into it, and from then on it should be taken for
the holder: by itself, so that it renews the lease, and by the others, so that they wait. The record
goes through the text that the API server keeps, and its times come back to the microsecond
(`LeaseSpec.decode_encode`). What remains is that an empty name counts as no holder. A replica whose
pod has an empty name takes that for its identity, and is recognised by nobody; all others are, as long
as the end of the lease can be represented (`Elector.recognized_iff`).
-/

namespace MachineProvider

open Election Json

namespace LeaseSpec

/-- A record with its times to the microsecond. -/
def inMicros (s : LeaseSpec) : LeaseSpec :=
  { s with
    acquireTime := s.acquireTime.map Timestamp.inMicros
    renewTime := s.renewTime.map Timestamp.inMicros }

/-- Whether the times of a record can be written. -/
structure IsCanonical (s : LeaseSpec) : Prop where
  acquireTime : ∀ t ∈ s.acquireTime, t.IsCanonical
  renewTime : ∀ t ∈ s.renewTime, t.IsCanonical

theorem time?_toMicrosText {time : Option Timestamp} (canonical : ∀ t ∈ time, t.IsCanonical) :
    ∀ t ∈ time.map Timestamp.inMicros, Metadata.time? (.str t.toMicrosText) = some t := by
  intro _ mapped
  obtain ⟨t, mem, rfl⟩ := Option.map_eq_some_iff.mp mapped
  simp only [Metadata.time?, string?, Option.bind_eq_bind, Option.bind_some,
    Timestamp.toMicrosText_inMicros, Timestamp.parseLenient?_toMicrosText (canonical t mem)]

theorem encode_inMicros (s : LeaseSpec) : s.inMicros.encode = s.encode := by
  have same (time : Option Timestamp) :
      Json.ifSome (fun t => .str t.toMicrosText) (time.map Timestamp.inMicros) =
        Json.ifSome (fun t => .str t.toMicrosText) time := by
    cases time with
    | none => rfl
    | some t => exact congrArg (fun text => some (Json.str text)) t.toMicrosText_inMicros
  simp only [encode, inMicros, same]

/-- A record is read as it was written, its times to the microsecond. -/
theorem decode_encode {s : LeaseSpec} (canonical : s.IsCanonical) :
    decode s.encode = some s.inMicros := by
  rw [← encode_inMicros]
  refine read_field rfl ?_
  refine read_record (by simp) ?_
  refine read_field (optional_eq_of_mem rfl (time?_toMicrosText canonical.acquireTime) rfl) ?_
  refine read_field (optional_eq undoes_string rfl rfl) ?_
  refine read_field (optional_eq undoes_int32 rfl rfl) ?_
  refine read_field (optional_eq undoes_int32 rfl rfl) ?_
  refine read_field (optional_eq undoes_string rfl rfl) ?_
  refine read_field (optional_eq_of_mem rfl (time?_toMicrosText canonical.renewTime) rfl) ?_
  refine read_field (optional_eq undoes_string rfl rfl) ?_
  rfl

/-- The times of a record that was read can be written. -/
theorem isCanonical_of_decode {json : Json} {s : LeaseSpec} (read : decode json = some s) :
    s.IsCanonical := by
  have time {fields : Fields} {name : String} {found : Option Timestamp}
      (read : fields.optional name Metadata.time? = some found) :
      ∀ t ∈ found, t.IsCanonical := by
    rintro t rfl
    obtain ⟨json, read⟩ := exists_of_optional read
    obtain ⟨text, -, read⟩ := Option.bind_eq_some_iff.mp read
    exact Timestamp.isCanonical_of_parseLenient? read
  simp only [decode, Option.bind_eq_bind, Option.bind_eq_some_iff] at read
  obtain ⟨_, -, fields, -, acquired, acquireTime, _, -, _, -, _, -, _, -, renewed, renewTime, _, -,
    made⟩ := read
  cases made
  exact ⟨time acquireTime, time renewTime⟩

end LeaseSpec

namespace Lease

theorem isCanonical_of_decode {json : Json} {lease : Lease} {s : LeaseSpec}
    (read : decode json = some lease) (stands : lease.spec = some s) : s.IsCanonical := by
  simp only [decode, Option.bind_eq_bind, Option.bind_eq_some_iff] at read
  obtain ⟨_, -, read⟩ := read
  split at read
  · cases read
  simp only [Option.bind_eq_some_iff] at read
  obtain ⟨fields, -, _, -, spec, read, made⟩ := read
  cases made
  obtain rfl : spec = some s := stands
  obtain ⟨json, read⟩ := exists_of_optional read
  exact LeaseSpec.isCanonical_of_decode read

end Lease

namespace Election.Exchange

/-- Whether an answer is one that there can be: the clock shows a time that can be written, and a
lease was read from a text. -/
def IsGenuine : Exchange → Prop
  | ⟨.now, t⟩ => t.IsCanonical
  | ⟨.fetch .., .ok lease⟩ => ∃ json, Lease.decode json = some lease
  | _ => True

/-- The lease that was to be stored, and was. -/
def stored? : Exchange → Option Lease
  | ⟨.create _ _ lease, .ok ()⟩ => some lease
  | ⟨.replace _ _ lease, .ok ()⟩ => some lease
  | _ => none

end Election.Exchange

namespace Elector

/-- Whether the environment leaves a replica without a name. -/
def LeavesUnnamed (env : Environment) : Prop :=
  env.get? podVariable = some "" ∨
    env.get? podVariable = none ∧ env.get? hostVariable = some ""

/-- The elector of a process. -/
def ofProcess (config : LeaderElectionConfig) (env : Environment) (process : String) : Elector :=
  ofConfig config env (defaultIdentity env process)

/-- The identity of a replica is empty only when it is taken from an empty variable. -/
theorem defaultIdentity_eq_empty_iff (env : Environment) (process : String) :
    defaultIdentity env process = "" ↔ LeavesUnnamed env := by
  unfold defaultIdentity LeavesUnnamed
  cases env.get? podVariable with
  | some name => simp
  | none =>
      cases env.get? hostVariable with
      | some name => simp
      | none => simp

end Elector

namespace LeaseSpec

/-- Whether a replica that renewed a lease at an instant for so many seconds is taken for its
holder by everybody who reads the record. -/
structure IsRecognized (s : LeaseSpec) (identity : String) (renewed : Timestamp) (seconds : Int) :
    Prop where
  own : ∀ now, Lease.decide (some s) identity now = some .renew
  others : ∀ other, other ≠ identity → ∀ now, now.isBefore renewed = false →
    (∀ ending, renewed.addSeconds? seconds = some ending → ending.isBefore now = false) →
      Lease.decide (some s) other now = some .wait

variable {s : LeaseSpec} {identity : String} {renewed : Timestamp} {seconds : Int32}

/-- The holder of a lease is recognised when it has a name and the end of the lease can be
represented, and otherwise not. -/
theorem isRecognized_iff (holds : s.holderIdentity = some identity)
    (renewTime : s.renewTime = some renewed) (lasts : s.leaseDurationSeconds = some seconds) :
    s.IsRecognized identity renewed seconds.toInt ↔
      identity ≠ "" ∧ (renewed.addSeconds? seconds.toInt).isSome = true := by
  have expired (now : Timestamp) : Lease.isExpired? s now =
      (renewed.addSeconds? seconds.toInt).map fun ending => ending.isBefore now := by
    simp only [Lease.isExpired?, renewTime, lasts, Option.map_eq_bind]
    rfl
  constructor
  · intro recognized
    constructor
    · rintro rfl
      have held := Lease.holder?_of_renew (recognized.own renewed)
      exact absurd (Option.filter_eq_some_iff.mp held).2 (by decide)
    · by_contra unbounded
      rw [Bool.not_eq_true, Option.isSome_eq_false_iff, Option.isNone_iff_eq_none] at unbounded
      have waits := recognized.others (identity ++ "'") (by simp) renewed
        (by simp [Timestamp.isBefore]) (by simp [unbounded])
      have decides := Lease.decides (some s) (identity ++ "'") renewed
      rw [waits] at decides
      cases decides with
      | alive stands _ alive =>
          cases stands
          simp [expired, unbounded] at alive
  · rintro ⟨named, bounded⟩
    have held : s.holder? = some identity := Lease.holder?_of_ne holds named
    obtain ⟨ending, ends⟩ := Option.isSome_iff_exists.mp bounded
    constructor
    · intro now
      exact Lease.decide_of_holder now held
    · intro other different now _ early
      have alive : Lease.isExpired? s now = some false := by
        rw [expired, ends, Option.map_some, early ending ends]
      simp [Lease.decide, held, different.symm, alive]

end LeaseSpec

namespace Elector

variable {e : Elector}

/-- The times of a lease that was read can be written. -/
theorem isCanonical_getD {lease : Lease} (genuine : ∃ json, Lease.decode json = some lease) :
    (lease.spec.getD {}).IsCanonical := by
  obtain ⟨json, read⟩ := genuine
  cases stands : lease.spec with
  | none => exact ⟨nofun, nofun⟩
  | some s => exact Lease.isCanonical_of_decode read stands

/-- Whether no lease was read that the elector held before. -/
def IsNew (e : Elector) (heard : List Exchange) : Prop :=
  ∀ lease ∈ heard.filterMap Exchange.lease?, Lease.holder? lease.spec ≠ some e.identity

/-- A round that succeeded has stored a lease that names the elector and says that it was renewed
when the clock was read. One that the elector did not hold before lasts as long as it says. -/
theorem Goes.exists_stored {result : Round} {heard : List Exchange} (goes : e.Goes result heard)
    (held : result = .held) (genuine : ∀ x ∈ heard, x.IsGenuine) :
    ∃ now lease s, ⟨.now, now⟩ ∈ heard ∧ heard.filterMap Exchange.stored? = [lease] ∧
      lease.spec = some s ∧ s.IsCanonical ∧
      s.holderIdentity = some e.identity ∧ s.renewTime = some now ∧
      (e.IsNew heard → s.leaseDurationSeconds = some e.recordedDuration) := by
  have time {now : Timestamp} (canonical : now.IsCanonical) : ∀ t ∈ some now, t.IsCanonical := by
    rintro _ ⟨⟩
    exact canonical
  cases goes with
  | unnamed | unread | crashes | waits => cases held
  | @creates now answer reply missing =>
      obtain rfl := roundOfWrite_eq_held held
      have shown : now.IsCanonical := genuine ⟨.now, now⟩ (by simp)
      cases answer with
      | ok lease => cases missing
      | error failure =>
          exact ⟨now, _, _, by simp, rfl, rfl, ⟨time shown, time shown⟩, rfl, rfl, fun _ => rfl⟩
  | @renews now lease reply decided =>
      obtain rfl := roundOfWrite_eq_held held
      have shown : now.IsCanonical := genuine ⟨.now, now⟩ (by simp)
      have read := genuine ⟨.fetch e.namespace e.leaseName, .ok lease⟩ (by simp)
      obtain ⟨s, stands, names⟩ := Lease.holder_of_renew decided
      refine ⟨now, _, _, by simp, rfl, rfl, ⟨(isCanonical_getD read).acquireTime, time shown⟩, ?_,
        rfl, ?_⟩
      · rw [stands]
        exact names
      · intro isNew
        exact absurd (Lease.holder?_of_renew decided) (isNew lease (by simp [Exchange.lease?]))
  | @takes now lease transitions reply decided =>
      obtain rfl := roundOfWrite_eq_held held
      have shown : now.IsCanonical := genuine ⟨.now, now⟩ (by simp)
      exact ⟨now, _, _, by simp, rfl, rfl, ⟨time shown, time shown⟩, rfl, rfl, fun _ => rfl⟩

/-- A replica that has acquired the lease is recognised as its holder by everybody who reads the
lease, unless its environment leaves it without a name or the end of the lease cannot be
represented. Time is counted from the microsecond that the lease records. -/
theorem recognized_iff (config : LeaderElectionConfig) (env : Environment) (process : String) :
    (ofProcess config env process).round.Follows transcript
      (fun result heard => result = .held → (∀ x ∈ heard, x.IsGenuine) →
        ∃ now lease s, ⟨.now, now⟩ ∈ heard ∧ heard.filterMap Exchange.stored? = [lease] ∧
          (lease.spec.map LeaseSpec.encode).bind LeaseSpec.decode = some s ∧
          ((ofProcess config env process).IsNew heard →
            s.leaseDurationSeconds = some (ofProcess config env process).recordedDuration) ∧
          ∀ seconds, s.leaseDurationSeconds = some seconds →
            (s.IsRecognized (ofProcess config env process).identity now.inMicros seconds.toInt ↔
              ¬ LeavesUnnamed env ∧ (now.inMicros.addSeconds? seconds.toInt).isSome = true)) [] := by
  refine goes_round.mono ?_
  intro result heard goes held genuine
  obtain ⟨now, lease, s, shown, stored, stands, canonical, names, renewTime, lasts⟩ :=
    goes.exists_stored held genuine
  refine ⟨now, lease, s.inMicros, shown, stored, ?_, lasts, ?_⟩
  · rw [stands]
    exact LeaseSpec.decode_encode canonical
  · intro seconds lasts
    have renewed : s.inMicros.renewTime = some now.inMicros := by
      simp [LeaseSpec.inMicros, renewTime]
    rw [LeaseSpec.isRecognized_iff (s := s.inMicros) names renewed lasts, ne_eq]
    exact and_congr_left' (not_congr (defaultIdentity_eq_empty_iff env process))

/-- How the questions of the first replica are answered, at the beginning of 1970. -/
def firstAnswer : (q : Question) → Answer q
  | .now => ⟨0, 0⟩
  | .fetch .. => .error (.refused "not found" "NotFound" 404)
  | .create .. => .ok ()
  | .replace .. => .ok ()

/-- The environment of a pod. -/
def podEnvironment (name : String) : Environment :=
  .ofList [(podVariable, name)]

/-- The elector of a pod. -/
def ofPod (name : String) : Elector :=
  ofProcess {} (podEnvironment name) "1"

/-- A replica whose pod has a name is recognised as the leader, and one whose pod has an empty name is
not. -/
theorem recognized_of_pods :
    let heard name := ((ofPod name).round.run (noting firstAnswer) []).2
    let record name := (((heard name).filterMap Exchange.stored?).head?.bind fun lease =>
      lease.spec.map LeaseSpec.encode).bind LeaseSpec.decode
    (∃ s, record "pod-a" = some s ∧ s.IsRecognized "pod-a" ⟨0, 0⟩ 15) ∧
    (∃ s, record "" = some s ∧ ¬ s.IsRecognized "" ⟨0, 0⟩ 15) := by
  intro heard record
  have recognized (name : String) : ∃ s, record name = some s ∧
      (s.IsRecognized name ⟨0, 0⟩ 15 ↔ name ≠ "") := by
    have heard_eq : heard name =
        [⟨.create "default" "controller-leader-election-capdc" ((ofPod name).newLease ⟨0, 0⟩), .ok ()⟩,
          ⟨.fetch "default" "controller-leader-election-capdc",
            .error (.refused "not found" "NotFound" 404)⟩, ⟨.now, ⟨0, 0⟩⟩] := rfl
    have genuine : ∀ x ∈ heard name, x.IsGenuine := by
      rw [heard_eq]
      intro x mem
      simp only [List.mem_cons, List.not_mem_nil, or_false] at mem
      rcases mem with rfl | rfl | rfl
      · trivial
      · trivial
      · exact ⟨by decide, .inl (by decide)⟩
    obtain ⟨now, lease, s, shown, stored, read, lasts, recognized⟩ :=
      follows_noting firstAnswer (recognized_iff {} (podEnvironment name) "1") rfl genuine
    obtain rfl : now = ⟨0, 0⟩ := by
      change _ ∈ heard name at shown
      rw [heard_eq] at shown
      simpa using shown
    have isNew : (ofPod name).IsNew (heard name) := by
      rw [heard_eq]
      intro before mem
      cases mem
    have unnamed : LeavesUnnamed (podEnvironment name) ↔ name = "" := by
      have named : (podEnvironment name).get? podVariable = some name := rfl
      simp [LeavesUnnamed, named]
    have fifteen : (ofPod name).recordedDuration.toInt = 15 := toInt_recordedDuration ..
    have stored : (heard name).filterMap Exchange.stored? = [lease] := stored
    refine ⟨s, ?_, ?_⟩
    · simp only [record, stored]
      exact read
    · have bounded : (Timestamp.addSeconds? ⟨0, 0⟩ 15).isSome = true := by decide
      have told := recognized (ofPod name).recordedDuration (lasts isNew)
      rw [unnamed, fifteen] at told
      exact told.trans (and_iff_left bounded)
  refine ⟨?_, ?_⟩
  · obtain ⟨s, read, iff⟩ := recognized "pod-a"
    exact ⟨s, read, iff.mpr (by simp)⟩
  · obtain ⟨s, read, iff⟩ := recognized ""
    exact ⟨s, read, fun holds => iff.mp holds rfl⟩

end Elector

end MachineProvider
