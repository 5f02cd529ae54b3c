import MachineProvider.Controller.Write
import MachineProvider.FailureCount

/-!
# The end of a run

A run ends with the result of the reconcile and the result of the write after it. When both failed,
the failure of the reconcile is reported. The failures of an object are forgotten when neither did.
-/

namespace MachineProvider.Controller

/-- The result of a run from the results of its reconcile and of the write after it. -/
def combine (outcome : Except Error Action) (written : Except Error Unit) : Except Error Action :=
  match outcome, written with
  | .error e, _ => .error e
  | .ok _, .error e => .error e
  | .ok action, .ok () => .ok action

/-- Ends a run: forgets the failures of the object when the run succeeded. -/
def conclude (kind : Kind) («namespace» name : String) (outcome : Except Error Action)
    (written : Except Error Unit) : Controller Run :=
  match combine outcome written with
  | .error e => return .finished (.error e)
  | .ok action =>
    .ask (.forgetFailures (objectKey kind.type.kind «namespace» name)) fun () =>
      .done (.finished (.ok action))

end MachineProvider.Controller
