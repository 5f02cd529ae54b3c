import MachineProvider.Proofs.Condition
import MachineProvider.Proofs.ProviderId
import MachineProvider.Proofs.Replies
import MachineProvider.Proofs.Machine.FinalFailure
import MachineProvider.Proofs.Machine.Wakeup

/-!
# Converged machines

Every change of a machine's status brings the machine back to the controller, so a reconcile that
changes something each time would never come to rest. `Settled` lists what a machine looks like when
it says all that the replies of the services have to say about it. A reconcile of a settled machine
changes nothing and creates nothing, whatever the clock shows (`Settled.keeps`), and every reconcile
settles its machine, except one that was to create an instance and did not (`settles_reconcile`).
-/

namespace MachineProvider.InfraMachine

open Procedure

section Effects

variable (m : InfraMachine) (reason message : String) (severity : Severity) (now later : Timestamp)
  (i : Instance)

theorem notReadyAt_notReadyAt :
    (m.notReadyAt reason message severity now).notReadyAt reason message severity later =
      m.notReadyAt reason message severity now := by
  simp only [notReadyAt, mapStatus, statusOrNew, Option.getD_some, Condition.markFalse_markFalse]

/-- The machine with a report on its instance. -/
def reportedAt : InfraMachine :=
  match i.state with
  | .running => (m.recordState i.state).runningAt now i
  | .pending =>
    (m.recordState i.state).notReadyAt Condition.instanceNotReady "Instance is pending" .info now
  | .stopped => m.recordState i.state
  | .terminated => (m.recordState i.state).failedAt "Instance was terminated" now
  | other =>
    (m.recordState i.state).notReadyAt Condition.instanceNotReady
      ("Instance is in unknown state: " ++ other.word) .warning now

/-- Reporting on an instance again changes nothing. -/
theorem reportedAt_reportedAt : (m.reportedAt now i).reportedAt later i = m.reportedAt now i := by
  unfold reportedAt
  split <;>
    simp only [recordState, runningAt, notReadyAt, failedAt, mapStatus, statusOrNew,
      Option.getD_some, Condition.markFalse_markFalse, Condition.markTrue_markTrue]

theorem spec_reportedAt : (m.reportedAt now i).spec = m.spec := by
  unfold reportedAt
  split <;> rfl

end Effects

section Parts

variable {R : Replies} {m o : InfraMachine} {scope : MachineScope} {config : Config}
  {s : List (Outcome CloudError Instance)}

/-- Where an instance is looked for depends on the provider ID only. -/
theorem findInstance_congr (same : o.spec.providerId = m.spec.providerId) :
    o.findInstance = m.findInstance := by
  unfold findInstance
  rw [same]

/-- A look for the instance of a machine has one result. -/
theorem determines_findInstance (m : InfraMachine) : R.Determines m.findInstance := by
  unfold findInstance
  cases m.spec.providerId with
  | none => exact Replies.determines_done _
  | some raw =>
      dsimp only
      cases ProviderId.parse? raw with
      | none => exact Replies.determines_done _
      | some id =>
          apply Replies.Determines.bind (Replies.determines_call fun _ => rfl)
          rintro (e | i) <;> exact Replies.determines_done _

/-- A created instance is found again, unless its ID is empty and names none. -/
theorem gives_findInstance {i : Instance}
    (named : m.spec.providerId = some (ProviderId.ofInstance i.id))
    (reply : R.call (.getInstance i.id) = .ok i) :
    R.Gives m.findInstance (.ok (some i)) ∨ ∃ e, R.Gives m.findInstance (.error e) := by
  unfold findInstance
  rw [named]
  dsimp only
  by_cases empty : i.id = ""
  · right
    have malformed : ProviderId.parse? (ProviderId.ofInstance i.id) = none := by
      rw [empty]
      rfl
    rw [malformed]
    exact ⟨_, Replies.gives_done _⟩
  · left
    rw [ProviderId.parse?_ofInstance empty]
    intro s
    apply Replies.Gives.bind (Replies.gives_call fun _ => rfl)
    rw [reply]
    exact ⟨rfl, rfl⟩

/-- A part of a reconcile that first reads the clock. -/
theorem follows_clock {α : Type} {post : α → List (Outcome CloudError Instance) → Prop}
    {next : Timestamp → Service α} (h : ∀ now, (next now).Follows R.replaying post s) :
    (Service.now.bind next).Follows R.replaying post s :=
  ⟨trivial, fun now _ => h now⟩

/-- What a report makes of a machine. -/
theorem reports_project (i : Instance) :
    (m.project i config).Follows R.replaying
      (fun r s' => s' = s ∧ ∃ now, r.1 = m.reportedAt now i) s := by
  unfold project
  dsimp only
  split
  next state =>
    refine follows_clock fun now => ⟨rfl, now, ?_⟩
    simp only [reportedAt, state]
    rfl
  next state =>
    refine follows_clock fun now => ⟨rfl, now, ?_⟩
    simp only [reportedAt, state]
    rfl
  next state =>
    apply (Replies.gives_call fun _ => rfl).bind
    have unchanged : m.recordState i.state = m.reportedAt default i := by
      simp only [reportedAt, state]
    split <;> exact ⟨rfl, default, unchanged⟩
  next state =>
    refine follows_clock fun now => ⟨rfl, now, ?_⟩
    simp only [reportedAt, state]
    rfl
  next idle pending asleep alive =>
    refine follows_clock fun now => ⟨rfl, now, ?_⟩
    unfold reportedAt
    split
    · contradiction
    · contradiction
    · contradiction
    · contradiction
    · rfl

/-- Reading bootstrap data has one result. -/
theorem determines_bootstrapData (location : SecretLocation) (compress : Bool)
    (gzip : Gzip.Compressor) : R.Determines (bootstrapData location compress gzip) := by
  apply Replies.Determines.bind (Replies.determines_call fun _ => rfl)
  rintro (e | _ | data)
  · exact Replies.determines_done _
  · exact Replies.determines_done _
  · dsimp only
    split <;> exact Replies.determines_done _

/-- A launch notes the instance that it creates. -/
theorem notes_launch (defaultImage : String) (gzip : Gzip.Compressor) :
    (m.launch scope defaultImage gzip).Follows R.replaying (fun result s =>
      match result with
      | .ok i => s = [.finished (.ok i)]
      | .error _ => ∀ i, .finished (.ok i) ∉ s) [] := by
  unfold launch
  cases scope.bootstrapDataSecret with
  | none => exact fun _ => List.not_mem_nil
  | some secret =>
      obtain ⟨data, gives⟩ := determines_bootstrapData (R := R)
        { «namespace» := scope.namespace, name := secret }
        (m.spec.uncompressedUserData = some false) gzip
      apply gives.bind
      cases data with
      | error e => exact fun _ => List.not_mem_nil
      | ok userData =>
          refine ⟨trivial, ?_⟩
          rintro _ rfl
          cases R.call (.createInstance (.ofMachine m scope defaultImage userData)) with
          | ok i => exact rfl
          | error e =>
              intro i created
              cases List.mem_singleton.mp created

/-- A creation notes the instance that it creates, and the machine names it. -/
theorem notes_create (gzip : Gzip.Compressor) (unnamed : m.spec.providerId = none) :
    (m.create scope config gzip).Follows R.replaying (fun r s =>
      match r.2 with
      | .ok i => s = [.finished (.ok i)] ∧
          r.1.spec.providerId = some (ProviderId.ofInstance i.id)
      | .error _ => ∀ i, .finished (.ok i) ∉ s) [] := by
  unfold create
  apply (notes_launch config.defaultImage gzip).bind
  rintro (e | i) s noted
  · exact follows_clock fun _ => noted
  · refine ⟨trivial, fun _ _ => follows_clock fun _ => ⟨noted, ?_⟩⟩
    unfold stampProviderId
    rw [unnamed]
    rfl

end Parts

/-- Whether there is nothing to wait for, and a client for the cloud can be set up. -/
structure Connects (R : Replies) (scope : MachineScope) : Prop where
  ready : scope.infrastructureReady = true
  made : scope.bootstrapDataSecret.isNone = false
  client : R.Gives (Service.connect scope.credentials) (.ok ())

/-- Whether a machine says all that the replies have to say about it. -/
inductive Settled (R : Replies) (scope : MachineScope) : InfraMachine → Prop
  | failed {o : InfraMachine} (failed : o.isFailed = true) : Settled R scope o
  | noInfrastructure (unready : scope.infrastructureReady = false) (m : InfraMachine)
    (now : Timestamp) :
    Settled R scope (m.notReadyAt Condition.waitingForClusterInfrastructure "" .info now)
  | noBootstrapData (ready : scope.infrastructureReady = true)
    (unmade : scope.bootstrapDataSecret.isNone = true) (m : InfraMachine) (now : Timestamp) :
    Settled R scope (m.notReadyAt Condition.waitingForBootstrapData "" .info now)
  | noClient (ready : scope.infrastructureReady = true)
    (made : scope.bootstrapDataSecret.isNone = false) {e : Error}
    (refused : R.Gives (Service.connect scope.credentials) (.error e)) (m : InfraMachine)
    (now : Timestamp) :
    Settled R scope (m.notReadyAt Condition.clientFailed e.message .error now)
  | unseen (connects : Connects R scope) {o : InfraMachine} {e : Error}
    (lost : R.Gives o.findInstance (.error e)) : Settled R scope o
  | seen (connects : Connects R scope) {m : InfraMachine} {i : Instance}
    (named : m.spec.providerId.isSome = true) (found : R.Gives m.findInstance (.ok (some i)))
    (now : Timestamp) : Settled R scope (m.reportedAt now i)

section Whole

variable {R : Replies} {m o : InfraMachine} {scope : MachineScope} {config : Config}
  {gzip : Gzip.Compressor}

/-- A machine that is worked on and waits for nothing needs a client for the cloud. -/
theorem IsActive.reconcile_of_open (h : m.IsActive) (ready : scope.infrastructureReady = true)
    (made : scope.bootstrapDataSecret.isNone = false) :
    m.reconcile scope config gzip = (Service.connect scope.credentials).bind fun
      | .error e => (m.markNotReady Condition.clientFailed .error e.message).bind fun o =>
          .done (o, .error e)
      | .ok () => m.converge scope config gzip := by
  unfold reconcile
  rw [if_neg (Bool.eq_false_iff.mp h.sound), h.guarded, ready, made]
  rfl

/-- A reconcile of a settled machine changes nothing and creates nothing. -/
theorem Settled.keeps (h : Settled R scope o) (guarded : o.hasFinalizer finalizer = true)
    (s : List (Outcome CloudError Instance)) :
    (o.reconcile scope config gzip).Follows R.replaying (fun r s' => r.1 = o ∧ s' = s) s := by
  by_cases failed : o.isFailed = true
  · rw [reconcile_of_isFailed scope failed]
    exact ⟨rfl, rfl⟩
  have active : o.IsActive := ⟨by simpa using failed, guarded⟩
  cases h with
  | failed h => exact absurd h failed
  | noInfrastructure unready m now =>
      rw [active.reconcile_of_not_ready unready]
      exact follows_clock fun later => ⟨notReadyAt_notReadyAt .., rfl⟩
  | noBootstrapData ready unmade m now =>
      rw [active.reconcile_of_no_bootstrapData ready unmade]
      exact follows_clock fun later => ⟨notReadyAt_notReadyAt .., rfl⟩
  | noClient ready made refused m now =>
      rw [active.reconcile_of_open ready made]
      apply refused.bind
      exact follows_clock fun later => ⟨notReadyAt_notReadyAt .., rfl⟩
  | unseen connects lost =>
      rw [active.reconcile_of_open connects.ready connects.made]
      apply connects.client.bind
      apply lost.bind
      exact ⟨rfl, rfl⟩
  | @seen connects m i named found now =>
      have same : (m.reportedAt now i).spec.providerId = m.spec.providerId := by
        rw [spec_reportedAt]
      rw [active.reconcile_of_open connects.ready connects.made]
      apply connects.client.bind
      unfold converge
      rw [findInstance_congr same]
      apply found.bind
      simp only [settle]
      rw [stampProviderId_of_named (by rw [same]; exact named)]
      refine (reports_project i).mono ?_
      rintro r s' ⟨rfl, later, eq⟩
      exact ⟨eq.trans (reportedAt_reportedAt ..), rfl⟩

/-- Whether the instance of a machine is known in the end: the machine names one, or one was created
that is found again. -/
def Knows (R : Replies) (m : InfraMachine) (s : List (Outcome CloudError Instance)) : Prop :=
  m.spec.providerId.isSome = true ∨
    ∃ i, .finished (.ok i) ∈ s ∧ R.call (.getInstance i.id) = .ok i

/-- Once there is a client, a machine whose instance is known in the end is settled. -/
theorem settles_converge (connects : Connects R scope) :
    (m.converge scope config gzip).Follows R.replaying
      (fun r s => Knows R m s → Settled R scope r.1) [] := by
  cases unnamed : m.spec.providerId with
  | some raw =>
      have named : m.spec.providerId.isSome = true := by rw [unnamed]; rfl
      obtain ⟨found, gives⟩ := determines_findInstance (R := R) m
      unfold converge
      apply gives.bind
      rcases found with e | _ | i
      · exact fun _ => .unseen connects gives
      · simp only [unnamed]
        exact follows_clock fun now _ => .failed rfl
      · simp only [settle]
        rw [stampProviderId_of_named named]
        refine (reports_project i).mono ?_
        rintro r s ⟨rfl, now, eq⟩ -
        rw [eq]
        exact .seen connects named gives now
  | none =>
      unfold converge findInstance
      simp only [unnamed]
      apply (notes_create gzip unnamed).bind
      rintro ⟨o, e | i⟩ s noted
      · rintro (named | ⟨i, created, -⟩)
        · rw [unnamed] at named
          cases named
        · exact absurd created (noted i)
      · obtain ⟨rfl, named⟩ := noted
        have isNamed : o.spec.providerId.isSome = true := by rw [named]; rfl
        simp only [settle]
        rw [stampProviderId_of_named isNamed]
        refine (reports_project i).mono ?_
        rintro r s ⟨rfl, now, eq⟩ (absent | ⟨j, created, reply⟩)
        · rw [unnamed] at absent
          cases absent
        · obtain rfl : j = i := by simpa using created
          rw [eq]
          rcases gives_findInstance named reply with found | ⟨e, lost⟩
          · exact .seen connects isNamed found now
          · refine .unseen connects (e := e) ?_
            rwa [findInstance_congr (m := o) (by rw [spec_reportedAt])]

/-- A reconcile of a machine whose instance is known in the end settles it. -/
theorem settles_reconcile (guarded : m.hasFinalizer finalizer = true) :
    (m.reconcile scope config gzip).Follows R.replaying
      (fun r s => Knows R m s → Settled R scope r.1) [] := by
  by_cases failed : m.isFailed = true
  · rw [reconcile_of_isFailed scope failed]
    exact fun _ => .failed failed
  have active : m.IsActive := ⟨by simpa using failed, guarded⟩
  cases ready : scope.infrastructureReady with
  | false =>
      rw [active.reconcile_of_not_ready ready]
      exact follows_clock fun now _ => .noInfrastructure ready m now
  | true =>
      cases made : scope.bootstrapDataSecret.isNone with
      | true =>
          rw [active.reconcile_of_no_bootstrapData ready made]
          exact follows_clock fun now _ => .noBootstrapData ready made m now
      | false =>
          obtain ⟨client, gives⟩ := R.determines_connect scope.credentials
          rw [active.reconcile_of_open ready made]
          apply gives.bind
          cases client with
          | error e => exact follows_clock fun now _ => .noClient ready made gives m now
          | ok _ => exact settles_converge ⟨ready, made, gives⟩

/-- What is observed of an instance does not touch the finalizers of its machine. -/
theorem Projects.metadata_eq {i : Instance} (h : Projects m i o) : o.metadata = m.metadata := by
  cases h <;> rfl

/-- A machine with its finalizer keeps it. -/
theorem Advances.hasFinalizer {seen : List Instance} (h : Advances m seen o)
    (guarded : m.hasFinalizer finalizer = true) : o.hasFinalizer finalizer = true := by
  cases h with
  | kept => exact guarded
  | guarded bare => exact absurd guarded (by simp [bare])
  | held active reason message severity now => exact guarded
  | vanished active named now => exact guarded
  | found active named projects =>
      unfold Object.hasFinalizer
      rwa [projects.metadata_eq]
  | @launched active unnamed i now _ projects =>
      have same : (m.stampProviderId (ProviderId.ofInstance i.id)).metadata = m.metadata := by
        unfold stampProviderId
        split <;> rfl
      unfold Object.hasFinalizer
      rw [projects.metadata_eq]
      exact (congrArg (·.finalizerList.contains finalizer) same).trans guarded

end Whole

/-- The outcomes of the requests for new instances in a reconcile. -/
def Turn.creations (t : Turn) (m : InfraMachine) : List (Outcome CloudError Instance) :=
  (t.run m).2.creations

/-- Whether the replies explain all answers in a reconcile. -/
def Turn.IsExplained (t : Turn) (m : InfraMachine) (R : Replies) : Prop :=
  ∀ x ∈ (t.run m).2.log, R.Explains x

/-- When two reconciles of a machine get the same replies, for the same scope, and the instance is
known after the first one, the second one leaves the machine exactly as it is, whatever the clock
shows in either of them. There is nothing to write, and no instance is asked for again. -/
theorem Turn.next_next {R : Replies} {first second : Turn} {m : InfraMachine}
    (scope : second.scope = first.scope)
    (guarded : m.hasFinalizer finalizer = true) (explained : first.IsExplained m R)
    (explained' : second.IsExplained (first.next m) R) (knows : Knows R m (first.creations m)) :
    second.next (first.next m) = first.next m ∧
      (@WritePlan.between .infraMachine (first.next m) (second.next (first.next m))).isNoop = true ∧
      second.creations (first.next m) = [] := by
  have settled : Settled R second.scope (first.next m) := by
    rw [scope]
    exact Replies.run_explained (settles_reconcile guarded) explained knows
  have kept := Replies.run_explained
    (settled.keeps ((first.advances m).hasFinalizer guarded) []) explained'
  have same : second.next (first.next m) = first.next m := kept.1
  refine ⟨same, ?_, kept.2⟩
  rw [same]
  simp [WritePlan.between, WritePlan.isNoop]

/-- A reconcile of the machine a second later, while its instance is in a state. -/
def laterTurn (state : InstanceState) : Turn where
  World := InstanceState
  surroundings := { sampleCloud with clock := fun _ _ => { seconds := 1, nanos := 0 } }
  guard := { deadline := 3000 }
  world := state
  instant := 1000
  scope := (sampleTurn state).scope
  config := {}

/-- The replies of a cloud that creates and finds the instance in a state. -/
def sampleReplies (state : InstanceState) : Replies where
  call r := (sampleCloud.work r 0 state).1
  connect _ := .ok ()

/-- The machine is created and seen running, and a second later nothing changes. -/
theorem Turn.next_next_of_sample :
    let running := (sampleTurn .running).next sampleMachine
    sampleMachine.hasFinalizer finalizer = true ∧ running.isReady = true ∧
      (laterTurn .running).next running = running := by
  intro running
  have guarded : sampleMachine.hasFinalizer finalizer = true := by decide
  have explained : (sampleTurn .running).IsExplained sampleMachine (sampleReplies .running) :=
    List.forall_mem_cons.mpr ⟨trivial, List.forall_mem_cons.mpr ⟨trivial,
      List.forall_mem_cons.mpr ⟨trivial, List.forall_mem_cons.mpr ⟨rfl,
        List.forall_mem_cons.mpr ⟨rfl, List.forall_mem_cons.mpr ⟨rfl,
          List.forall_mem_singleton.mpr rfl⟩⟩⟩⟩⟩⟩
  have explained' : (laterTurn .running).IsExplained running (sampleReplies .running) :=
    List.forall_mem_cons.mpr ⟨trivial, List.forall_mem_cons.mpr ⟨rfl,
      List.forall_mem_cons.mpr ⟨rfl, List.forall_mem_singleton.mpr rfl⟩⟩⟩
  have knows : Knows (sampleReplies .running) sampleMachine
      ((sampleTurn .running).creations sampleMachine) :=
    .inr ⟨{ sampleInstance with state := .running }, List.mem_singleton_self _, rfl⟩
  have scope : (laterTurn .running).scope = (sampleTurn .running).scope := rfl
  exact ⟨guarded, rfl, (Turn.next_next scope guarded explained explained' knows).1⟩

end MachineProvider.InfraMachine
