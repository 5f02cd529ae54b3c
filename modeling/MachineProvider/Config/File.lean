import MachineProvider.Config.Settings
import MachineProvider.Text.Utf8
import MachineProvider.Yaml.Core
import MachineProvider.Yaml.Document.OfTokens

/-!
# Configuration files

The settings may come from a YAML file. A file that is missing or that cannot be read gives the
default settings; the settings of any other file must be without fault (`Config.load`).
-/

namespace MachineProvider

/-- Settings as values of a YAML document. -/
def Yaml.settings : SettingsFormat Yaml.Place where
  record? := fun names place => place.record? names
  uint64? := fun place => (place.natBelow? UInt64.size).map UInt64.ofNat
  uint16? := fun place => (place.natBelow? UInt16.size).map UInt16.ofNat
  bool? := Yaml.Place.bool?
  text? := Yaml.Place.text?
  optionalText? := Yaml.Place.optionalText?

namespace Config

/-- The configuration that a YAML text holds. -/
def ofYaml? (text : String) : Option Config :=
  Yaml.Document.parse? text >>= fun document => read Yaml.settings document.top

/-- Why a configuration file was not read. -/
inductive FileFault where
  /-- It is missing, or not UTF-8. -/
  | unreadable
  /-- It is not the YAML of a configuration. -/
  | malformed
  deriving DecidableEq, Repr, Inhabited

/-- The text that reports that a file was not understood. -/
def FileFault.message : FileFault → String
  | unreadable => "Failed to read config file"
  | malformed => "Failed to parse config YAML"

/-- The configuration of a file, which may be missing. -/
def ofFile (file : Option ByteArray) : Except FileFault Config :=
  match file >>= Text.ofBytes? with
  | none => .error .unreadable
  | some text =>
    match ofYaml? text with
    | none => .error .malformed
    | some config => .ok config

/-- The settings of a file, or the default settings when it cannot be read. -/
def ofFileOrDefault (file : Option ByteArray) : Config :=
  match ofFile file with
  | .ok config => config
  | .error _ => {}

/-- The settings of a file or the default settings, if they are without fault. -/
def load (file : Option ByteArray) : Except ConfigFault Config := do
  let config := ofFileOrDefault file
  config.validate
  return config

end Config

end MachineProvider
