import MachineProvider.Manager.Start
import MachineProvider.Proofs.Manager.Arguments

/-!
# The configuration to run with

The effective configuration has the settings of the file, or the default ones, with every given
text in its place (`effective?`). The manager gets past its configuration exactly when the settings
of the file are without fault by themselves and the effective ones are as well (`starts_iff`). So
arguments can break a file, but they cannot repair one.
-/

namespace MachineProvider.Manager

/-- Settings with every given text in its place, when each stands for a value. Leader election is
enabled when the settings or the flag want it. -/
def effective? (base : Config) (given : Argument → Option String) : Option Config := do
  let election := base.leaderElection
  return { base with
    watchFilter := given .watchFilter <|> base.watchFilter
    watchNamespace := given .watchNamespace <|> base.watchNamespace
    clusterConcurrency := ← valueOf? uint16? base.clusterConcurrency (given .clusterConcurrency)
    machineConcurrency := ← valueOf? uint16? base.machineConcurrency (given .machineConcurrency)
    syncPeriodSeconds := ← valueOf? uint64? base.syncPeriodSeconds (given .syncPeriod)
    leaderElection := { election with
      enabled := election.enabled || given .leaderElection = some "true"
      leaseDurationSeconds :=
        ← valueOf? uint64? election.leaseDurationSeconds (given .leaseDuration)
      renewDeadlineSeconds :=
        ← valueOf? uint64? election.renewDeadlineSeconds (given .renewDeadline)
      retryPeriodSeconds := ← valueOf? uint64? election.retryPeriodSeconds (given .retryPeriod) } }

/-- A flag is set by the text `true` only. -/
theorem eq_of_valueOf?_bool {text : Option String} {flag : Bool}
    (h : valueOf? bool? false text = some flag) : flag = decide (text = some "true") := by
  cases text with
  | none => simpa [valueOf?] using h.symm
  | some text =>
    simp only [valueOf?, bool?] at h
    grind

namespace Arguments

/-- Arguments that say what the texts stand for are applied as the texts want it. -/
theorem effective?_eq_apply {a : Arguments} {given : Argument → Option String}
    (stands : ∀ x, a.Says (given x) x) (base : Config) :
    effective? base given = some (a.apply base) := by
  have filter : a.watchFilter = given .watchFilter := stands .watchFilter
  have «namespace» : a.watchNamespace = given .watchNamespace := stands .watchNamespace
  simp only [effective?, ← filter, ← «namespace»,
    valueOf?_of_optional? (stands .clusterConcurrency),
    valueOf?_of_optional? (stands .machineConcurrency),
    valueOf?_of_optional? (stands .syncPeriod), valueOf?_of_optional? (stands .leaseDuration),
    valueOf?_of_optional? (stands .renewDeadline), valueOf?_of_optional? (stands .retryPeriod),
    ← eq_of_valueOf?_bool (stands .leaderElection)]
  rfl

variable {a : Arguments} {file : Option ByteArray}

/-- What the manager runs with, if the settings are without fault before and after the arguments
are applied. -/
theorem settle_eq_ok {config : Config} :
    a.settle file = .ok config ↔
      (Config.ofFileOrDefault file).validate = .ok () ∧
        (a.apply (Config.ofFileOrDefault file)).validate = .ok () ∧
        config = a.apply (Config.ofFileOrDefault file) := by
  constructor
  · intro h
    obtain ⟨base, loaded, h⟩ := bind_eq_ok.mp h
    obtain ⟨⟨⟩, fileValid, loaded⟩ := bind_eq_ok.mp loaded
    obtain ⟨⟨⟩, valid, h⟩ := bind_eq_ok.mp h
    cases loaded
    cases h
    exact ⟨fileValid, valid, rfl⟩
  · rintro ⟨fileValid, valid, rfl⟩
    have loaded : Config.load file = .ok (Config.ofFileOrDefault file) :=
      bind_eq_ok.mpr ⟨(), fileValid, rfl⟩
    exact bind_eq_ok.mpr ⟨_, loaded, bind_eq_ok.mpr ⟨(), valid, rfl⟩⟩

theorem start_eq_noClient : start a file = .noClient ↔ ∃ config, a.settle file = .ok config := by
  unfold start
  cases a.settle file <;> simp

end Arguments

/-- The manager gets past its configuration exactly when the settings of the file, or the default
ones, are without fault and the effective ones are as well, and these are what it runs with. The
texts that are put in the place of settings are those of the command line, which can be taken apart
in one way only, and of the environment. -/
theorem starts_iff {env : Environment} {words : List String} {a : Arguments}
    (reads : Request.read env words = .ok (.run a)) (file : Option ByteArray) :
    ∃ phrases effective, Spells phrases words ∧
      (∀ others, Spells others words → others = phrases) ∧
      effective? (Config.ofFileOrDefault file) (textOf env phrases) = some effective ∧
      (start a file = .noClient ↔
        (Config.ofFileOrDefault file).validate = .ok () ∧ effective.validate = .ok ()) ∧
      ∀ config, a.settle file = .ok config → config = effective := by
  obtain ⟨phrases, spelled, stands⟩ := says_of_read reads
  refine ⟨phrases, a.apply (Config.ofFileOrDefault file), spelled,
    fun others spelled' => spelled'.unique spelled, Arguments.effective?_eq_apply stands _, ?_, ?_⟩
  · constructor
    · intro started
      obtain ⟨config, settled⟩ := Arguments.start_eq_noClient.mp started
      obtain ⟨fileValid, valid, -⟩ := Arguments.settle_eq_ok.mp settled
      exact ⟨fileValid, valid⟩
    · rintro ⟨fileValid, valid⟩
      exact Arguments.start_eq_noClient.mpr
        ⟨_, Arguments.settle_eq_ok.mpr ⟨fileValid, valid, rfl⟩⟩
  · intro config settled
    exact (Arguments.settle_eq_ok.mp settled).2.2

/-- Without a file, a namespace from the environment and a flag make a valid configuration. -/
theorem starts_iff_of_flag :
    let env : Environment := .ofList [("CAPDC_NAMESPACE", "gpu")]
    let words := ["--leader-elect", "--leader-elect-retry-period-seconds=3"]
    let a : Arguments :=
      { watchNamespace := some "gpu", leaderElection := true, retryPeriodSeconds := some 3 }
    Request.read env words = .ok (.run a) ∧ start a none = .noClient ∧
      ∃ phrases effective, Spells phrases words ∧
        effective? (Config.ofFileOrDefault none) (textOf env phrases) = some effective ∧
        effective.validate = .ok () ∧
        a.settle none = .ok effective := by
  intro env words a
  have reads : Request.read env words = .ok (.run a) := rfl
  have runs : start a none = .noClient := by decide +kernel
  obtain ⟨phrases, effective, spelled, -, settings, started, settled⟩ := starts_iff reads none
  obtain ⟨config, settles⟩ := Arguments.start_eq_noClient.mp runs
  obtain rfl := settled config settles
  exact ⟨reads, runs, phrases, config, spelled, settings, (started.mp runs).2, settles⟩

/-- An argument gives a fault of the file another value, and the manager still refuses it. -/
theorem repaired_file_refused :
    let file := some "syncPeriodSeconds: 0".toUTF8
    let phrases := [Phrase.separate .syncPeriod rfl "60" (by decide)]
    Spells phrases ["--sync-period-seconds", "60"] ∧
      Request.read .empty ["--sync-period-seconds", "60"] =
        .ok (.run { syncPeriodSeconds := some 60 }) ∧
      effective? (Config.ofFileOrDefault file) (textOf .empty phrases) =
        some { syncPeriodSeconds := 60 } ∧
      ({ syncPeriodSeconds := 60 } : Config).validate = .ok () ∧
      start { syncPeriodSeconds := some 60 } file = .invalid .zeroSyncPeriod := by
  have base : Config.ofFileOrDefault (some "syncPeriodSeconds: 0".toUTF8) =
      { syncPeriodSeconds := 0 } := by
    decide +kernel
  refine ⟨.inl rfl, rfl, ?_, rfl, ?_⟩
  · rw [base]
    rfl
  · simp only [start, Arguments.settle, Config.load, base]
    rfl

end MachineProvider.Manager
