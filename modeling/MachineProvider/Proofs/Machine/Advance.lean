import MachineProvider.Proofs.Machine.SingleInstance
import MachineProvider.Proofs.Surroundings

/-!
# What a reconcile makes of a machine

A reconcile looks at the instance of its machine at most once. `Advances` says, for each way in
which it may go, what the machine is afterwards and which instance was observed; it is all that
later proofs need to know about a reconcile (`advances_reconcile`). `Turn` is one reconcile with
everything that may differ from one to the next, and `after` is the machine after several of them.
-/

namespace MachineProvider

/-- The instance that an answer shows: the one that was found, or the one that was created. -/
def Exchange.observed? : Exchange → Option Instance
  | ⟨.call (.getInstance _), .finished (.ok i)⟩ => some i
  | ⟨.call (.createInstance _), .finished (.ok i)⟩ => some i
  | _ => none

/-- The instances that were observed in a scene, the last one first. -/
def Scene.observed {κ : Type} (s : Scene κ) : List Instance :=
  s.log.filterMap Exchange.observed?

namespace InfraMachine

open Procedure

section Effects

variable (m : InfraMachine) (reason message : String) (severity : Severity) (now : Timestamp)

/-- The machine with its instance reported as not ready. -/
def notReadyAt : InfraMachine :=
  m.mapStatus fun status => { status with
    conditions :=
      Condition.markFalse status.conditions Condition.instanceReady reason severity message now }

/-- The machine with a final failure. -/
def failedAt : InfraMachine :=
  m.mapStatus fun status => { status with
    ready := false
    failureReason := some updateError
    failureMessage := some message
    conditions :=
      Condition.markFalse status.conditions Condition.instanceReady Condition.instanceTerminated
        .error message now }

/-- The machine with its instance reported as running. -/
def runningAt (found : Instance) : InfraMachine :=
  m.mapStatus fun status => { status with
    ready := true
    addresses := MachineAddress.ofInstance found
    conditions := Condition.markTrue status.conditions Condition.instanceReady now }

end Effects

/-- What becomes of a machine whose instance was observed. -/
inductive Projects (m : InfraMachine) (i : Instance) : InfraMachine → Prop
  | running (state : i.state = .running) (now : Timestamp) :
    Projects m i ((m.recordState i.state).runningAt now i)
  | stopped (state : i.state = .stopped) : Projects m i (m.recordState i.state)
  | terminated (state : i.state = .terminated) (now : Timestamp) :
    Projects m i ((m.recordState i.state).failedAt "Instance was terminated" now)
  | between (idle : i.state ≠ .running) (asleep : i.state ≠ .stopped)
    (alive : i.state ≠ .terminated) (message : String) (severity : Severity) (now : Timestamp) :
    Projects m i
      ((m.recordState i.state).notReadyAt Condition.instanceNotReady message severity now)

/-- Whether a machine is worked on: it has its finalizer and no final failure. -/
structure IsActive (m : InfraMachine) : Prop where
  sound : m.isFailed = false
  guarded : m.hasFinalizer finalizer = true

/-- What a reconcile may make of a machine, and the instances that it observes. -/
inductive Advances (m : InfraMachine) : List Instance → InfraMachine → Prop
  /-- The machine has failed for good, or its instance could not be looked for. -/
  | kept : Advances m [] m
  /-- The machine did not have its finalizer. -/
  | guarded (bare : m.hasFinalizer finalizer = false) : Advances m [] (m.pushFinalizer finalizer)
  /-- Something is missing that is needed to go on, or the instance could not be created. -/
  | held (active : m.IsActive) (reason message : String) (severity : Severity) (now : Timestamp) :
    Advances m [] (m.notReadyAt reason message severity now)
  /-- The instance that the machine names does not exist any more. -/
  | vanished (active : m.IsActive) {raw : String} (named : m.spec.providerId = some raw)
    (now : Timestamp) :
    Advances m [] (m.failedAt ("Instance " ++ raw ++ " no longer exists") now)
  /-- The instance that the machine names was found. -/
  | found (active : m.IsActive) (named : m.spec.providerId.isSome = true) {i : Instance}
    {o : InfraMachine} (projects : Projects m i o) : Advances m [i] o
  /-- An instance was created for a machine that named none. -/
  | launched (active : m.IsActive) (unnamed : m.spec.providerId = none) {i : Instance}
    (now : Timestamp) {o : InfraMachine}
    (projects : Projects
      ((m.stampProviderId (ProviderId.ofInstance i.id)).notReadyAt Condition.instanceNotReady ""
        .info now) i o) :
    Advances m [i] o

/-- The discipline that notes the instances that are observed, the last one first. -/
def observing : Discipline Service.Question Service.Answer (List Instance) where
  next seen q a := (Exchange.observed? ⟨q, a⟩).toList ++ seen
  may _ _ := True
  expects _ _ _ := True

section Parts

variable {m o : InfraMachine} {seen : List Instance} {config : Config}

theorem keeps_connect (location : SecretLocation) :
    (Service.connect location).Keeps observing seen :=
  Service.keeps_connect trivial (fun _ => rfl) (fun _ => trivial) fun _ _ => rfl

/-- The clock shows no instance. -/
theorem follows_at {α : Type} {post : α → List Instance → Prop} (next : Timestamp → Service α)
    (h : ∀ now, (next now).Follows observing post seen) :
    (Service.now.bind next).Follows observing post seen :=
  ⟨trivial, fun now _ => h now⟩

/-- What a look for the instance of a machine shows. -/
theorem observes_findInstance :
    m.findInstance.Follows observing (fun result seen =>
      match result with
      | .ok (some i) => seen = [i] ∧ m.spec.providerId.isSome = true
      | _ => seen = []) [] := by
  unfold findInstance
  cases hraw : m.spec.providerId with
  | none => exact rfl
  | some raw =>
      dsimp only
      cases ProviderId.parse? raw with
      | none => exact rfl
      | some id =>
          refine ⟨trivial, ?_⟩
          rintro (cause | cause | (e | i)) -
          · cases cause <;> exact rfl
          · cases cause <;> exact rfl
          · by_cases unknown : (Error.cloud e).isCloudNotFound = true <;>
              simp [Service.received, Request.toError, unknown, observing, Exchange.observed?]
          · exact ⟨rfl, rfl⟩

/-- A launch shows the instance that it creates. -/
theorem observes_launch (scope : MachineScope) (defaultImage : String) {gzip : Gzip.Compressor} :
    (m.launch scope defaultImage gzip).Follows observing (fun result seen =>
      match result with
      | .ok i => seen = [i]
      | .error _ => seen = []) [] := by
  unfold launch
  cases scope.bootstrapDataSecret with
  | none => exact rfl
  | some secret =>
      have read : ∀ location compress,
          (bootstrapData location compress gzip).Keeps observing [] := by
        intro location compress
        refine .ask trivial (fun _ => rfl) ?_
        rintro (cause | cause | (e | data | data))
        · exact keeps_done _ _
        · exact keeps_done _ _
        · exact keeps_done _ _
        · exact keeps_done _ _
        · simp only [Service.received, done_bind]
          split <;> exact keeps_done _ _
      refine Follows.bind (read _ _) ?_
      rintro (e | userData) _ rfl
      · exact rfl
      · refine ⟨trivial, ?_⟩
        rintro (cause | cause | (e | i)) - <;> exact rfl

/-- What a creation shows, and what becomes of its machine before it is reported on. -/
theorem observes_create (scope : MachineScope) {gzip : Gzip.Compressor} :
    (m.create scope config gzip).Follows observing (fun r seen =>
      match r.2 with
      | .ok i => seen = [i] ∧ ∃ now, r.1 =
          (m.stampProviderId (ProviderId.ofInstance i.id)).notReadyAt Condition.instanceNotReady ""
            .info now
      | .error _ => seen = [] ∧ ∃ reason message severity now,
          r.1 = m.notReadyAt reason message severity now) [] := by
  unfold create
  refine (observes_launch scope _).bind ?_
  rintro (e | i) seen shown
  · exact follows_at _ fun now => ⟨shown, _, _, _, now, rfl⟩
  · refine ⟨trivial, fun _ _ => ?_⟩
    exact follows_at _ fun now => ⟨shown, now, rfl⟩

/-- Reporting on an instance asks for no other one. -/
theorem projects_project (i : Instance) :
    (m.project i config).Follows observing (fun r seen' => seen' = seen ∧ Projects m i r.1)
      seen := by
  unfold project
  dsimp only
  split
  next state =>
    exact follows_at _ fun now => ⟨rfl, .running state now⟩
  next state =>
    refine follows_at _ fun now => ⟨rfl, ?_⟩
    exact .between (by simp [state]) (by simp [state]) (by simp [state]) _ _ now
  next state =>
    refine ⟨trivial, ?_⟩
    rintro (cause | cause | (e | ⟨⟩)) - <;> exact ⟨rfl, .stopped state⟩
  next state =>
    exact follows_at _ fun now => ⟨rfl, .terminated state now⟩
  next idle _ asleep alive =>
    exact follows_at _ fun now => ⟨rfl, .between idle asleep alive _ _ now⟩

end Parts

section Whole

variable {m : InfraMachine} {config : Config} {gzip : Gzip.Compressor}

/-- A machine that names its instance keeps the name. -/
theorem stampProviderId_of_named {o : InfraMachine} (named : o.spec.providerId.isSome = true)
    (providerId : String) : o.stampProviderId providerId = o :=
  if_pos named

theorem providerId_stampProviderId (o : InfraMachine) (providerId : String) :
    (o.stampProviderId providerId).spec.providerId.isSome = true := by
  unfold stampProviderId
  split
  next named => exact named
  · rfl

/-- Settling a machine that names its instance reports on the instance. -/
theorem projects_settle {o : InfraMachine} {seen : List Instance} (i : Instance)
    (named : o.spec.providerId.isSome = true) :
    (o.settle i config).Follows observing (fun r seen' => seen' = seen ∧ Projects o i r.1)
      seen := by
  rw [settle, stampProviderId_of_named named]
  exact projects_project i

/-- What becomes of a machine once there is a client for the cloud. -/
theorem advances_converge (scope : MachineScope) (active : m.IsActive) :
    (m.converge scope config gzip).Follows observing (fun r seen => Advances m seen r.1) [] := by
  unfold converge
  refine observes_findInstance.bind ?_
  rintro (e | _ | i) seen shown
  · obtain rfl := shown
    exact .kept
  · obtain rfl := shown
    cases unnamed : m.spec.providerId with
    | some raw => exact follows_at _ fun now => .vanished active unnamed now
    | none =>
        refine (observes_create scope).bind ?_
        rintro ⟨o, e | i⟩ seen shown
        · obtain ⟨rfl, reason, message, severity, now, rfl⟩ := shown
          exact .held active reason message severity now
        · obtain ⟨rfl, now, rfl⟩ := shown
          have named : ((m.stampProviderId (ProviderId.ofInstance i.id)).notReadyAt
              Condition.instanceNotReady "" .info now).spec.providerId.isSome = true :=
            providerId_stampProviderId m _
          refine (projects_settle i named).mono ?_
          rintro r _ ⟨rfl, projects⟩
          exact .launched active unnamed now projects
  · obtain ⟨rfl, named⟩ := shown
    refine (projects_settle i named).mono ?_
    rintro r _ ⟨rfl, projects⟩
    exact .found active named projects

/-- What becomes of a machine that is reconciled, whatever the services answer. -/
theorem advances_reconcile (m : InfraMachine) (scope : MachineScope) (config : Config) :
    (m.reconcile scope config gzip).Follows observing (fun r seen => Advances m seen r.1) [] := by
  unfold reconcile
  split
  · exact .kept
  next sound =>
  split
  next bare => exact .guarded (by simpa using bare)
  next guarded =>
  have active : m.IsActive := ⟨by simpa using sound, by simpa using guarded⟩
  split
  · exact follows_at _ fun now => .held active _ _ _ now
  split
  · exact follows_at _ fun now => .held active _ _ _ now
  refine Follows.bind (keeps_connect _) ?_
  rintro (e | ⟨⟩) _ rfl
  · exact follows_at _ fun now => .held active _ _ _ now
  · exact advances_converge scope active

end Whole

/-- One reconcile of a machine: the world in which it takes place, its guard, what the owners of the
machine say, and how bootstrap data is compressed. -/
structure Turn where
  World : Type
  surroundings : Surroundings World
  guard : Guard
  world : World
  /-- The instant at which the reconcile starts. -/
  instant : Nat
  scope : MachineScope
  config : Config
  gzip : Gzip.Compressor := Gzip.encode

namespace Turn

/-- The reconcile of a machine: what it gives back, and what it asked. -/
def run (t : Turn) (m : InfraMachine) : (InfraMachine × Except Error Action) × Scene t.World :=
  (m.reconcile t.scope t.config t.gzip).run (t.surroundings.answer (.under t.guard none))
    { world := t.world, instant := t.instant, log := [] }

/-- The machine after the reconcile, whatever its result. -/
def next (t : Turn) (m : InfraMachine) : InfraMachine :=
  (t.run m).1.1

/-- The instances that the reconcile observes. -/
def observed (t : Turn) (m : InfraMachine) : List Instance :=
  (t.run m).2.observed

theorem advances (t : Turn) (m : InfraMachine) : Advances m (t.observed m) (t.next m) := by
  have start : (m.reconcile t.scope t.config t.gzip).Follows observing
      (fun r seen => Advances m seen r.1)
      (Scene.observed { world := t.world, instant := t.instant, log := [] }) :=
    advances_reconcile m t.scope t.config
  refine start.run (fun _ _ => trivial) ?_
  intro q scene
  rw [Scene.observed, Surroundings.answer_log, List.filterMap_cons]
  cases seen : Exchange.observed? ⟨q, (t.surroundings.answer (.under t.guard none) q scene).1⟩ <;>
    simp [observing, seen, Scene.observed]

end Turn

/-- The machine after a sequence of reconciles. -/
def after (m : InfraMachine) (turns : List Turn) : InfraMachine :=
  turns.foldl (fun m t => t.next m) m

/-- What every reconcile keeps, a sequence of them keeps. -/
theorem after_induction {P : InfraMachine → Prop} {m : InfraMachine} (start : P m)
    (step : ∀ m o seen, P m → Advances m seen o → P o) (turns : List Turn) : P (m.after turns) := by
  induction turns generalizing m with
  | nil => exact start
  | cons t rest ih => exact ih (step _ _ _ start (t.advances m))

/-- A cloud that creates and finds the instance in the state that its world says. Requests take no
time. -/
def sampleCloud : Surroundings InstanceState where
  duration _ _ _ := 0
  work
    | .readSecret .., _, state => (.ok (some sampleSecret), state)
    | .createInstance _, _, state => (.ok { sampleInstance with state }, state)
    | .getInstance _, _, state => (.ok { sampleInstance with state }, state)
    | .startInstance _, _, state => (.ok (), state)
    | .deleteInstance _, _, state => (.ok (), state)
    | .deleteLoadBalancer _, _, state => (.ok (), state)
  leave _ _ state := state
  connect _ _ _ := .ok ()
  clock _ _ := default

/-- A reconcile of the machine while its instance is in a state. -/
def sampleTurn (state : InstanceState) : Turn where
  World := InstanceState
  surroundings := sampleCloud
  guard := { deadline := 1000 }
  world := state
  instant := 0
  scope := .ofOwners ⟨sampleOwner, sampleCluster, sampleInfraCluster⟩ "default" {}
  config := {}

end InfraMachine

end MachineProvider
