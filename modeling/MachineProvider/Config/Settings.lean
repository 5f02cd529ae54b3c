import MachineProvider.Config.Basic

/-!
# Reading settings

Configurations are read from values of different formats. A `SettingsFormat` says how the values of
a format are read; which settings there are, and what is taken when one is missing, does not depend
on it. Settings that are not known are ignored.
-/

namespace MachineProvider

/-- How settings are read from the values of a format. -/
structure SettingsFormat (V : Type) where
  /-- The fields of a record whose declared names are given. -/
  record? : List String → V → Option (String → Option V)
  uint64? : V → Option UInt64
  uint16? : V → Option UInt16
  bool? : V → Option Bool
  text? : V → Option String
  /-- A text, or a value that says that there is none. -/
  optionalText? : V → Option (Option String)

/-- A setting that takes the given value when it is missing. -/
def setting {V α : Type} (fields : String → Option V) (name : String) (read : V → Option α)
    (standard : α) : Option α :=
  match fields name with
  | none => some standard
  | some value => read value

theorem setting_of_missing {V α : Type} {fields : String → Option V} {name : String}
    (h : fields name = none) (read : V → Option α) (standard : α) :
    setting fields name read standard = some standard := by
  simp [setting, h]

namespace CredentialsConfig

/-- The names of the settings. -/
def fieldNames : List String := ["secretName", "namespace"]

/-- Reads where the credentials are. -/
def read {V : Type} (f : SettingsFormat V) (value : V) : Option CredentialsConfig := do
  let fields ← f.record? fieldNames value
  let standard : CredentialsConfig := {}
  return {
    secretName := ← setting fields "secretName" f.text? standard.secretName
    «namespace» := ← setting fields "namespace" f.optionalText? none }

end CredentialsConfig

namespace BackoffConfig

/-- The names of the settings. -/
def fieldNames : List String := ["baseSeconds", "maxSeconds"]

/-- Reads the retry delays. -/
def read {V : Type} (f : SettingsFormat V) (value : V) : Option BackoffConfig := do
  let fields ← f.record? fieldNames value
  let standard : BackoffConfig := {}
  return {
    baseSeconds := ← setting fields "baseSeconds" f.uint64? standard.baseSeconds
    maxSeconds := ← setting fields "maxSeconds" f.uint64? standard.maxSeconds }

end BackoffConfig

namespace LeaderElectionConfig

/-- The names of the settings. -/
def fieldNames : List String :=
  ["enabled", "leaseName", "leaseNamespace", "leaseDurationSeconds", "renewDeadlineSeconds",
   "retryPeriodSeconds"]

/-- Reads how a leader is chosen. -/
def read {V : Type} (f : SettingsFormat V) (value : V) : Option LeaderElectionConfig := do
  let fields ← f.record? fieldNames value
  let standard : LeaderElectionConfig := {}
  return {
    enabled := ← setting fields "enabled" f.bool? standard.enabled
    leaseName := ← setting fields "leaseName" f.text? standard.leaseName
    leaseNamespace := ← setting fields "leaseNamespace" f.optionalText? none
    leaseDurationSeconds :=
      ← setting fields "leaseDurationSeconds" f.uint64? standard.leaseDurationSeconds
    renewDeadlineSeconds :=
      ← setting fields "renewDeadlineSeconds" f.uint64? standard.renewDeadlineSeconds
    retryPeriodSeconds :=
      ← setting fields "retryPeriodSeconds" f.uint64? standard.retryPeriodSeconds }

end LeaderElectionConfig

namespace Config

/-- The names of the settings. -/
def fieldNames : List String :=
  ["requeueIntervalSeconds", "syncPeriodSeconds", "reconcileTimeoutSeconds", "clusterConcurrency",
   "machineConcurrency", "watchFilter", "watchNamespace", "defaultImage", "credentials", "backoff",
   "leaderElection", "eventComponent"]

/-- Reads a configuration. -/
def read {V : Type} (f : SettingsFormat V) (value : V) : Option Config := do
  let fields ← f.record? fieldNames value
  let standard : Config := {}
  return {
    requeueIntervalSeconds :=
      ← setting fields "requeueIntervalSeconds" f.uint64? standard.requeueIntervalSeconds
    syncPeriodSeconds :=
      ← setting fields "syncPeriodSeconds" f.uint64? standard.syncPeriodSeconds
    reconcileTimeoutSeconds :=
      ← setting fields "reconcileTimeoutSeconds" f.uint64? standard.reconcileTimeoutSeconds
    clusterConcurrency :=
      ← setting fields "clusterConcurrency" f.uint16? standard.clusterConcurrency
    machineConcurrency :=
      ← setting fields "machineConcurrency" f.uint16? standard.machineConcurrency
    watchFilter := ← setting fields "watchFilter" f.optionalText? none
    watchNamespace := ← setting fields "watchNamespace" f.optionalText? none
    defaultImage := ← setting fields "defaultImage" f.text? standard.defaultImage
    credentials := ← setting fields "credentials" (CredentialsConfig.read f) {}
    backoff := ← setting fields "backoff" (BackoffConfig.read f) {}
    leaderElection := ← setting fields "leaderElection" (LeaderElectionConfig.read f) {}
    eventComponent := ← setting fields "eventComponent" f.text? standard.eventComponent }

end Config

end MachineProvider
