import MachineProvider.Controller.Basic

/-!
# Writing objects back

After a reconcile only what changed is written: metadata and specification in one request, the
status in another. The second is checked against the version that the first one produced. An object
that was let go, because it is deleted and its last finalizer was removed, may be gone before or
after the first request; its status is not written.
-/

namespace MachineProvider

/-- The requests that bring a stored object in line with the reconciled one. -/
structure WritePlan where
  /-- Finalizers or specification changed. -/
  replaceObject : Bool
  /-- The status changed, and the object stays. -/
  replaceStatus : Bool
  /-- The object is deleted and has no finalizer left. -/
  released : Bool
  deriving DecidableEq, Repr, Inhabited

namespace WritePlan

/-- The plan that leads from one version of an object to another. -/
def between {kind : Kind} (before after : kind.Object) : WritePlan :=
  let released := after.metadata.isDeleted && after.metadata.finalizerList.isEmpty
  { replaceObject :=
      before.metadata.finalizerList != after.metadata.finalizerList || before.spec != after.spec
    replaceStatus := !released && before.status != after.status
    released }

/-- Whether there is nothing to write. -/
def isNoop (p : WritePlan) : Bool :=
  !p.replaceObject && !p.replaceStatus

/-- Whether a failed write only means that the object, which was let go, is gone already. -/
def isGone (p : WritePlan) (e : ApiFailure) : Bool :=
  p.released && e.hasCode 404

end WritePlan

/-- The object with the version of another, which was written before it. -/
def Object.adoptVersion {σ τ : Type} (o written : Object σ τ) : Object σ τ :=
  { o with metadata.resourceVersion := written.metadata.resourceVersion }

namespace Controller

/-- Writes metadata and specification. -/
def replace (kind : Kind) («namespace» name : String) (object : kind.Object) :
    Controller (Except ApiFailure kind.Object) :=
  if name.isEmpty then return .error .emptyName
  else .ask (.replace kind «namespace» name object) .done

/-- Writes the status if the plan says so. -/
def writeStatus (kind : Kind) («namespace» name : String) (plan : WritePlan)
    (object : kind.Object) : Controller (Except Error Unit) :=
  if !plan.replaceStatus then return .ok ()
  else if name.isEmpty then return .error (.api .emptyName)
  else
    .ask (.replaceStatus kind «namespace» name object) fun
      | .ok () => .done (.ok ())
      | .error e => .done (.error (.api e))

/-- Brings the stored object from `before`, as it was read, to `after`. -/
def write (kind : Kind) («namespace» : String) (before after : kind.Object) :
    Controller (Except Error Unit) := do
  let plan := WritePlan.between before after
  if plan.isNoop then return .ok ()
  else
    match after.metadata.name with
    | none => return .error .missingObjectKey
    | some name =>
      if plan.replaceObject then
        match ← replace kind «namespace» name after with
        | .ok written => writeStatus kind «namespace» name plan (after.adoptVersion written)
        | .error e => return if plan.isGone e then .ok () else .error (.api e)
      else writeStatus kind «namespace» name plan after

end Controller

end MachineProvider
