import MachineProvider.Config.Basic
import MachineProvider.Dictionary

/-!
# Counting failures

A controller counts for each object how often its reconcile has failed in a row, and waits longer
after each failure. A count is forgotten when a reconcile succeeds; it stays at its largest value
once it has reached it.
-/

namespace MachineProvider

/-- The key under which the failures of an object are counted. -/
def objectKey (kind «namespace» name : String) : String :=
  kind ++ "/" ++ «namespace» ++ "/" ++ name

/-- The number of failures in a row of each object that has failed. -/
abbrev FailureCount := Dictionary UInt32

namespace FailureCount

/-- The count after one more failure. -/
def increment (count : UInt32) : UInt32 :=
  if count.toNat + 1 < UInt32.size then count + 1 else count

/-- The failures in a row of an object. -/
def of (counts : FailureCount) (key : String) : UInt32 :=
  (counts.get? key).getD 0

/-- Counts a failure and says how long to wait after it. -/
def next (counts : FailureCount) (config : BackoffConfig) (key : String) : Delay × FailureCount :=
  let count := increment (counts.of key)
  (config.delay count, counts.insert key count)

/-- Forgets the failures of an object. -/
def reset (counts : FailureCount) (key : String) : FailureCount :=
  counts.erase key

end FailureCount

end MachineProvider
