import MachineProvider.Dictionary

/-!
# Environment variables

The variables that are set for a process. What a variable decides is said where it is used.
-/

namespace MachineProvider

/-- The environment variables that are set, with their values. -/
abbrev Environment := Dictionary String

end MachineProvider
