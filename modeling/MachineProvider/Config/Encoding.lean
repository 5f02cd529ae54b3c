import MachineProvider.Config.Settings
import MachineProvider.Json.Decode

/-!
# Configurations as JSON

The settings as they are written in objects, with the names that a configuration file uses. A
setting without a value is left out.
-/

namespace MachineProvider

/-- Settings as JSON values. -/
def Json.settings : SettingsFormat Json where
  record? := fun names json => json.record? names
  uint64? := Json.uint64?
  uint16? := Json.uint16?
  bool? := Json.bool?
  text? := Json.string?
  optionalText? := fun json =>
    match json with
    | .null => some none
    | other => other.string?.map some

/-- Writes where the credentials are. -/
def CredentialsConfig.encode (c : CredentialsConfig) : Json :=
  Json.ofMembers [
    ("secretName", some (.str c.secretName)),
    ("namespace", Json.ifSome .str c.namespace)]

/-- Reads the retry delays. -/
def BackoffConfig.decode : Json → Option BackoffConfig := read Json.settings

/-- Writes the retry delays. -/
def BackoffConfig.encode (c : BackoffConfig) : Json :=
  .obj [("baseSeconds", .int c.baseSeconds.toNat), ("maxSeconds", .int c.maxSeconds.toNat)]

/-- Reads how a leader is chosen. -/
def LeaderElectionConfig.decode : Json → Option LeaderElectionConfig := read Json.settings

/-- Writes how a leader is chosen. -/
def LeaderElectionConfig.encode (c : LeaderElectionConfig) : Json :=
  Json.ofMembers [
    ("enabled", some (.bool c.enabled)),
    ("leaseName", some (.str c.leaseName)),
    ("leaseNamespace", Json.ifSome .str c.leaseNamespace),
    ("leaseDurationSeconds", some (.int c.leaseDurationSeconds.toNat)),
    ("renewDeadlineSeconds", some (.int c.renewDeadlineSeconds.toNat)),
    ("retryPeriodSeconds", some (.int c.retryPeriodSeconds.toNat))]

namespace Config

/-- Reads a configuration. -/
def decode : Json → Option Config := read Json.settings

/-- Writes a configuration. -/
def encode (c : Config) : Json :=
  Json.ofMembers [
    ("requeueIntervalSeconds", some (.int c.requeueIntervalSeconds.toNat)),
    ("syncPeriodSeconds", some (.int c.syncPeriodSeconds.toNat)),
    ("reconcileTimeoutSeconds", some (.int c.reconcileTimeoutSeconds.toNat)),
    ("clusterConcurrency", some (.int c.clusterConcurrency.toNat)),
    ("machineConcurrency", some (.int c.machineConcurrency.toNat)),
    ("watchFilter", Json.ifSome .str c.watchFilter),
    ("watchNamespace", Json.ifSome .str c.watchNamespace),
    ("defaultImage", some (.str c.defaultImage)),
    ("credentials", some c.credentials.encode),
    ("backoff", some c.backoff.encode),
    ("leaderElection", some c.leaderElection.encode),
    ("eventComponent", some (.str c.eventComponent))]

end Config

end MachineProvider
