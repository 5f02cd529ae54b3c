import MachineProvider.Proofs.Dictionary
import MachineProvider.Proofs.Machine.Convergence
import MachineProvider.Proofs.Machine.Release

/-!
# What a reconcile asks of the cloud

A reconcile that reaches the cloud comes to know the instance of its machine by one request: it looks
for the instance that the machine names, or has one created. `Seeks` says which request it is and in
which scene it is made, and there is at most one (`Seeks.unique`). When an instance is seen and is
stopped, it is started. There are no other requests (`course`), so that each request is sent under
exactly known conditions (`accounts_asked`).
-/

namespace MachineProvider

/-- The request of an exchange that was sent. A refused call sends nothing. -/
def Exchange.sent? : Exchange → Option Request
  | ⟨.call _, .refused _⟩ => none
  | ⟨.call r, _⟩ => some r
  | _ => none

/-- The requests that the cloud was sent in a scene, the last one first. -/
def Scene.asked {κ : Type} (s : Scene κ) : List Request :=
  s.deeds.filterMap Exchange.sent?

namespace Surroundings

variable {κ : Type} {W : Surroundings κ}

/-- A request goes to the cloud when the guard admits it. -/
theorem asked_answer (g : Guard) (unreadable : Option ApiFailure) {r : Request}
    (deed : ∀ outcome, Exchange.isDeed ⟨.call r, outcome⟩ = true) (s : Scene κ) :
    (W.answer (.under g unreadable) (.call r) s).2.asked =
      if g.Admits r.patience s.instant then r :: s.asked else s.asked := by
  let duration := W.duration r s.instant s.world
  have started : (g.call r.patience s.instant duration).wasStarted = true ↔ _ :=
    g.wasStarted_call r.patience
  have kept : (W.answer (.under g unreadable) (.call r) s).2.deeds =
      ⟨.call r, (W.answer (.under g unreadable) (.call r) s).1⟩ :: s.deeds := by
    rw [Scene.deeds, answer_log, List.filter_cons, if_pos (deed _)]
    rfl
  rw [Scene.asked, kept, List.filterMap_cons]
  simp only [answer, Conditions.under]
  cases ending : g.call r.patience s.instant duration with
  | refused cause =>
      rw [ending] at started
      rw [if_neg (started.not.mp Bool.false_ne_true)]
      rfl
  | abandoned cause instant =>
      rw [ending] at started
      rw [if_pos (started.mp rfl)]
      rfl
  | finished instant =>
      rw [ending] at started
      rw [if_pos (started.mp rfl)]
      rfl

end Surroundings

namespace InfraMachine

open Procedure Surroundings

/-- Reading bootstrap data is reading the secret, and succeeds when the secret has the key. -/
theorem run_bootstrapData {σ : Type}
    (answer : (q : Service.Question) → σ → Service.Answer q × σ) (location : SecretLocation)
    (compress : Bool) (gzip : Gzip.Compressor) (s : σ) :
    let read := (Service.call (.readSecret .bootstrapData location)).run answer s
    (∃ data bytes, read.1 = .ok (some data) ∧ data.get? bootstrapDataKey = some bytes ∧
        (bootstrapData location compress gzip).run answer s =
          (.ok (userData gzip compress bytes.toList), read.2)) ∨
      (∃ e, (bootstrapData location compress gzip).run answer s = (.error e, read.2)) ∧
        ∀ data bytes, read.1 = .ok (some data) → data.get? bootstrapDataKey ≠ some bytes := by
  have splits : (bootstrapData location compress gzip).run answer s = _ := run_bind ..
  dsimp only
  rw [splits]
  rcases (Service.call (.readSecret .bootstrapData location)).run answer s with ⟨e | _ | data, s'⟩
  · exact .inr ⟨⟨e, rfl⟩, by simp⟩
  · exact .inr ⟨⟨_, rfl⟩, by simp⟩
  · cases value : data.get? bootstrapDataKey with
    | none =>
        simp only [value]
        refine .inr ⟨⟨_, rfl⟩, ?_⟩
        rintro _ _ ⟨⟩
        simp [value]
    | some bytes =>
        refine .inl ⟨data, bytes, rfl, value, ?_⟩
        simp only [value]
        rfl

/-- A launch reads the bootstrap data and then asks for an instance. -/
theorem launch_of_secret {m : InfraMachine} {scope : MachineScope} {secret : String}
    (made : scope.bootstrapDataSecret = some secret) (defaultImage : String)
    (gzip : Gzip.Compressor) :
    m.launch scope defaultImage gzip =
      (bootstrapData { «namespace» := scope.namespace, name := secret }
        (m.spec.uncompressedUserData = some false) gzip).bind fun
        | .error e => .done (.error e)
        | .ok userData =>
          Service.call (.createInstance (.ofMachine m scope defaultImage userData)) := by
  unfold launch
  rw [made]
  rfl

namespace Turn

/-- The scenes of a reconcile. -/
abbrev Scene (t : Turn) : Type := MachineProvider.Scene t.World

/-- The scene in which a reconcile starts. -/
def opening (t : Turn) : t.Scene :=
  { world := t.world, instant := t.instant, log := [] }

/-- How a question in a reconcile is answered. -/
def answer (t : Turn) : (q : Service.Question) → t.Scene → Service.Answer q × t.Scene :=
  t.surroundings.answer (.under t.guard none)

/-- Setting up a client, which a reconcile does first, and the scene afterwards. -/
def client (t : Turn) : Except Error Unit × t.Scene :=
  (Service.connect t.scope.credentials).run t.answer t.opening

/-- Reading the secret with the bootstrap data once there is a client, and the scene afterwards. -/
def bootstrap (t : Turn) (secret : String) : Except Error (Option SecretData) × t.Scene :=
  (Service.call (.readSecret .bootstrapData
    { «namespace» := t.scope.namespace, name := secret })).run t.answer t.client.2

/-- The requests that the cloud is sent in a reconcile, the last one first. -/
def asked (t : Turn) (m : InfraMachine) : List Request :=
  (t.run m).2.asked

/-- Whether a reconcile of a machine gets as far as the cloud: the machine is worked on, there is
nothing to wait for, and a client can be set up. -/
structure ReachesCloud (t : Turn) (m : InfraMachine) : Prop where
  active : m.IsActive
  ready : t.scope.infrastructureReady = true
  made : t.scope.bootstrapDataSecret.isSome = true
  connected : t.client.1 = .ok ()

/-- The request by which a reconcile comes to know the instance of its machine, and the scene in
which the request is to be made. -/
inductive Seeks (t : Turn) (m : InfraMachine) : Request → t.Scene → Prop
  /-- The instance that the machine names is looked for. -/
  | lookUp (reaches : t.ReachesCloud m) {id : String} (named : m.instanceId? = some id) :
    Seeks t m (.getInstance id) t.client.2
  /-- The machine names no instance, and one is created with the bootstrap data of its secret. -/
  | creation (reaches : t.ReachesCloud m) (unnamed : m.spec.providerId = none) {secret : String}
    (made : t.scope.bootstrapDataSecret = some secret) {data : SecretData}
    (read : (t.bootstrap secret).1 = .ok (some data)) {bytes : ByteArray}
    (value : data.get? bootstrapDataKey = some bytes) :
    Seeks t m
      (.createInstance (.ofMachine m t.scope t.config.defaultImage
        (userData t.gzip (m.spec.uncompressedUserData = some false) bytes.toList)))
      (t.bootstrap secret).2

/-- An instance is seen in the answer to the request by which it was sought. The scene is the one
after the answer. -/
def Sees (t : Turn) (m : InfraMachine) (i : Instance) (s : t.Scene) : Prop :=
  ∃ r before, t.Seeks m r before ∧
    Exchange.observed? ⟨.call r, (t.answer (.call r) before).1⟩ = some i ∧
    s = (t.answer (.call r) before).2

/-- The request that follows when an instance is seen in a scene: a stopped one is started. -/
def starts (t : Turn) (s : t.Scene) : Option Instance → List Request
  | some i =>
    if i.state = .stopped ∧ t.guard.isCancelled { instant := s.instant } = false then
      [.startInstance i.id]
    else []
  | none => []

/-- The requests of a reconcile in which an instance is sought by a request in a scene. -/
def asks (t : Turn) (r : Request) (s : t.Scene) : List Request :=
  t.starts (t.answer (.call r) s).2 (Exchange.observed? ⟨.call r, (t.answer (.call r) s).1⟩) ++
    if t.guard.Admits r.patience s.instant then [r] else []

variable {t : Turn} {m : InfraMachine}

theorem asked_project (o : InfraMachine) (i : Instance) (config : Config) (s : t.Scene) :
    ((o.project i config).run t.answer s).2.asked = t.starts s (some i) ++ s.asked := by
  unfold project starts
  dsimp only
  split
  next state =>
    simp only [state]
    rfl
  next state =>
    simp only [state]
    rfl
  next state =>
    calc _ = (t.answer (.call (.startInstance i.id)) s).2.asked := by
          refine congrArg Scene.asked (snd_run_bind ?_)
          rintro (e | ⟨⟩) <;> exact ⟨_, rfl⟩
      _ = if t.guard.Admits .interruptible s.instant then _ else _ :=
          asked_answer t.guard none (fun _ => rfl) s
      _ = _ := by
          simp only [Guard.Admits, reduceCtorEq, false_implies, and_true, state, true_and]
          split <;> rfl
  next state =>
    simp only [state]
    rfl
  next asleep _ =>
    rw [if_neg fun h => asleep h.1]
    rfl

/-- Settling sends the same requests as a report. -/
theorem asked_settle (o : InfraMachine) (i : Instance) (config : Config) (s : t.Scene) :
    ((o.settle i config).run t.answer s).2.asked = t.starts s (some i) ++ s.asked :=
  asked_project _ i config s

theorem asks_append {r : Request} (deed : ∀ outcome, Exchange.isDeed ⟨.call r, outcome⟩ = true)
    (s : t.Scene) :
    t.asks r s ++ s.asked =
      t.starts (t.answer (.call r) s).2 (Exchange.observed? ⟨.call r, (t.answer (.call r) s).1⟩) ++
        (t.answer (.call r) s).2.asked := by
  have sent : (t.answer (.call r) s).2.asked = _ := asked_answer t.guard none deed s
  rw [asks, sent]
  split <;> simp

/-- The requests when the instance that the machine names is looked for. -/
theorem asked_converge_of_named {id : String} (named : m.instanceId? = some id)
    (scope : MachineScope) (config : Config) (gzip : Gzip.Compressor) (s : t.Scene) :
    ((m.converge scope config gzip).run t.answer s).2.asked =
      t.asks (.getInstance id) s ++ s.asked := by
  obtain ⟨raw, hraw, parsed⟩ := Option.bind_eq_some_iff.mp named
  rw [asks_append fun _ => rfl]
  simp only [converge, findInstance, hraw, parsed]
  change (Procedure.run t.answer (Procedure.ask (.call (.getInstance id)) _) s).2.asked = _
  rw [Procedure.run]
  rcases t.answer (.call (.getInstance id)) s with ⟨cause | cause | (e | i), s'⟩
  · cases cause <;> rfl
  · cases cause <;> rfl
  · cases known : (Error.cloud e).isCloudNotFound with
    | true =>
      dsimp only
      simp only [Service.received, Request.toError, done_bind, known, if_true]
      rfl
    | false =>
      dsimp only
      simp only [Service.received, Request.toError, done_bind, known]
      rfl
  · exact asked_settle m i config s'

/-- The requests when the machine names no instance are those of a launch, and of what follows. -/
theorem asked_converge_of_unnamed (unnamed : m.spec.providerId = none) (scope : MachineScope)
    (config : Config) (gzip : Gzip.Compressor) (s : t.Scene) :
    let launched := (m.launch scope config.defaultImage gzip).run t.answer s
    ((m.converge scope config gzip).run t.answer s).2.asked =
      t.starts launched.2 launched.1.toOption ++ launched.2.asked := by
  dsimp only
  simp only [converge, findInstance, unnamed, create]
  change (Procedure.run t.answer
    (((m.launch scope config.defaultImage gzip).bind _).bind _) s).2.asked = _
  rw [run_bind, run_bind]
  rcases (m.launch scope config.defaultImage gzip).run t.answer s with ⟨e | i, s'⟩
  · rfl
  · exact asked_settle _ i config _

/-- A launch asks for an instance when there is bootstrap data, and only then. -/
theorem asked_launch {scope : MachineScope} {secret : String}
    (made : scope.bootstrapDataSecret = some secret) (defaultImage : String)
    (gzip : Gzip.Compressor) (s : t.Scene) :
    let read := (Service.call (.readSecret .bootstrapData
      { «namespace» := scope.namespace, name := secret })).run t.answer s
    let launched := (m.launch scope defaultImage gzip).run t.answer s
    let requests := t.starts launched.2 launched.1.toOption ++ launched.2.asked
    (∃ data bytes, read.1 = .ok (some data) ∧ data.get? bootstrapDataKey = some bytes ∧
        requests = t.asks (.createInstance (.ofMachine m scope defaultImage
          (userData gzip (m.spec.uncompressedUserData = some false) bytes.toList))) read.2 ++
            s.asked) ∨
      (∀ data bytes, read.1 = .ok (some data) → data.get? bootstrapDataKey ≠ some bytes) ∧
        requests = s.asked := by
  intro read launched requests
  have unasked : s.asked = read.2.asked := rfl
  have splits : launched = _ :=
    (congrArg (Procedure.run t.answer · s) (launch_of_secret made defaultImage gzip)).trans
      (run_bind ..)
  rcases run_bootstrapData t.answer { «namespace» := scope.namespace, name := secret }
    (m.spec.uncompressedUserData = some false) gzip s with
    ⟨data, bytes, result, value, ends⟩ | ⟨⟨e, ends⟩, without⟩
  · refine .inl ⟨data, bytes, result, value, ?_⟩
    rw [ends] at splits
    rw [unasked, asks_append fun _ => rfl]
    let request := InstanceRequest.ofMachine m scope defaultImage
      (userData gzip (m.spec.uncompressedUserData = some false) bytes.toList)
    have called : launched = (Service.call (.createInstance request)).run t.answer read.2 := splits
    simp only [requests, called, Service.call, Procedure.run]
    rcases t.answer (.call (.createInstance request)) read.2 with ⟨cause | cause | (e | i), s'⟩ <;>
      rfl
  · refine .inr ⟨without, ?_⟩
    rw [ends] at splits
    simp only [requests, splits]
    rfl

theorem asked_client (t : Turn) : t.client.2.asked = [] := by
  rw [client, answer, Scene.asked, deeds_connect]
  rfl

/-- A reconcile that gets as far as the cloud asks for what it needs to converge. -/
theorem ReachesCloud.asked_eq (h : t.ReachesCloud m) :
    t.asked m = ((m.converge t.scope t.config t.gzip).run t.answer t.client.2).2.asked := by
  have made : t.scope.bootstrapDataSecret.isNone = false := by
    rw [Option.isNone_eq_false_iff]
    exact h.made
  have connected : ((Service.connect t.scope.credentials).run t.answer t.opening).1 = .ok () :=
    h.connected
  rw [asked, run, h.active.reconcile_of_open h.ready made, run_bind]
  change (Procedure.run t.answer _ t.client.2).2.asked = _
  rw [answer, opening] at connected
  rw [connected]

/-- A reconcile that does not get as far as the cloud asks for nothing. -/
theorem asked_of_not_reachesCloud (h : ¬ t.ReachesCloud m) : t.asked m = [] := by
  unfold asked run reconcile
  split
  · rfl
  next sound =>
  split
  · rfl
  next guarded =>
  have active : m.IsActive := ⟨by simpa using sound, by simpa using guarded⟩
  split
  · rfl
  next ready =>
  split
  · rfl
  next made =>
  change (Procedure.run t.answer (Procedure.bind _ _) t.opening).2.asked = _
  rw [run_bind]
  have quiet := t.asked_client
  rcases connected : t.client with ⟨e | ⟨⟩, s⟩
  · rw [connected] at quiet
    rw [client] at connected
    rw [connected]
    exact quiet
  · exact absurd ⟨active, by simpa using ready,
      by simpa [Option.isSome_iff_ne_none] using made, congrArg Prod.fst connected⟩ h

/-- There is at most one request by which an instance is sought, and it is made in one scene. -/
theorem Seeks.unique {r r' : Request} {s s' : t.Scene} (h : t.Seeks m r s)
    (h' : t.Seeks m r' s') : r = r' ∧ s = s' := by
  cases h with
  | lookUp reaches named =>
      cases h' with
      | lookUp reaches' named' =>
          rw [named] at named'
          cases named'
          exact ⟨rfl, rfl⟩
      | creation reaches' unnamed made read value => simp [instanceId?, unnamed] at named
  | creation reaches unnamed made read value =>
      cases h' with
      | lookUp reaches' named => simp [instanceId?, unnamed] at named
      | creation reaches' unnamed' made' read' value' =>
          rw [made] at made'
          cases made'
          rw [read] at read'
          cases read'
          rw [value] at value'
          cases value'
          exact ⟨rfl, rfl⟩

/-- The requests that a reconcile may send. -/
inductive Course (t : Turn) (m : InfraMachine) : List Request → Prop
  /-- No instance is sought. -/
  | idle (idle : ∀ r s, ¬ t.Seeks m r s) : Course t m []
  /-- An instance is sought by a request in a scene. -/
  | sought {r : Request} {s : t.Scene} (seeks : t.Seeks m r s) : Course t m (t.asks r s)

/-- The requests when the machine names no instance: one is created if there is bootstrap data. -/
theorem ReachesCloud.course_of_unnamed (h : t.ReachesCloud m) (unnamed : m.spec.providerId = none) :
    t.Course m (t.asked m) := by
  obtain ⟨secret, made⟩ := Option.isSome_iff_exists.mp h.made
  rw [h.asked_eq, asked_converge_of_unnamed unnamed]
  rcases asked_launch (m := m) made t.config.defaultImage t.gzip t.client.2 with
    ⟨data, bytes, read, value, requests⟩ | ⟨without, requests⟩
  · rw [requests, asked_client, List.append_nil]
    exact .sought (.creation h unnamed made read value)
  · rw [requests, asked_client]
    constructor
    rintro r s (⟨-, named⟩ | ⟨-, -, made', read, value⟩)
    · simp [instanceId?, unnamed] at named
    · rw [made] at made'
      cases made'
      exact without _ _ read value

/-- The requests when the machine has a provider ID: the instance is looked for if it names one. -/
theorem ReachesCloud.course_of_named (h : t.ReachesCloud m) {raw : String}
    (named : m.spec.providerId = some raw) : t.Course m (t.asked m) := by
  rw [h.asked_eq]
  cases parsed : ProviderId.parse? raw with
  | none =>
      have unasked : ((m.converge t.scope t.config t.gzip).run t.answer t.client.2).2.asked =
          t.client.2.asked := by
        simp only [converge, findInstance, named, parsed]
        rfl
      rw [unasked, asked_client]
      constructor
      rintro r s (⟨-, valid⟩ | ⟨-, unnamed, -, -, -⟩)
      · simp [instanceId?, named, parsed] at valid
      · rw [named] at unnamed
        cases unnamed
  | some id =>
      have valid : m.instanceId? = some id := by simp [instanceId?, named, parsed]
      rw [asked_converge_of_named valid, asked_client, List.append_nil]
      exact .sought (.lookUp h valid)

theorem course (t : Turn) (m : InfraMachine) : t.Course m (t.asked m) := by
  by_cases reaches : t.ReachesCloud m
  · cases named : m.spec.providerId with
    | none => exact reaches.course_of_unnamed named
    | some raw => exact reaches.course_of_named named
  · rw [asked_of_not_reachesCloud reaches]
    constructor
    rintro r s (⟨reaches', -⟩ | ⟨reaches', -, -, -, -⟩) <;> exact reaches reaches'

theorem starts_cases (s : t.Scene) (seen : Option Instance) :
    t.starts s seen = [] ∨ ∃ id, t.starts s seen = [.startInstance id] := by
  unfold starts
  split
  · split
    · exact .inr ⟨_, rfl⟩
    · exact .inl rfl
  · exact .inl rfl

theorem mem_starts {s : t.Scene} {seen : Option Instance} {r : Request} :
    r ∈ t.starts s seen ↔ ∃ i, seen = some i ∧ i.state = .stopped ∧
      t.guard.isCancelled { instant := s.instant } = false ∧ r = .startInstance i.id := by
  unfold starts
  cases seen with
  | none => simp
  | some i =>
      dsimp only
      split
      next stopped => simp [stopped]
      next awake =>
        simp only [List.not_mem_nil, Option.some.injEq, false_iff]
        rintro ⟨_, rfl, stopped, live, -⟩
        exact awake ⟨stopped, live⟩

theorem mem_asks {r r' : Request} {s : t.Scene} :
    r' ∈ t.asks r s ↔
      r' ∈ t.starts (t.answer (.call r) s).2
          (Exchange.observed? ⟨.call r, (t.answer (.call r) s).1⟩) ∨
        r' = r ∧ t.guard.Admits r.patience s.instant := by
  unfold asks
  rw [List.mem_append]
  split
  next admitted => simp [admitted]
  next held => simp [held]

namespace Course

variable {asked : List Request}

/-- An instance is looked for or created when it is sought so and the guard admits the request. -/
theorem mem_iff (h : t.Course m asked) {r : Request} (other : ∀ id, r ≠ .startInstance id) :
    r ∈ asked ↔ ∃ s, t.Seeks m r s ∧ t.guard.Admits r.patience s.instant := by
  cases h with
  | idle idle =>
      constructor
      · exact fun member => absurd member List.not_mem_nil
      · rintro ⟨s, seeks, -⟩
        exact absurd seeks (idle r s)
  | @sought r' s seeks =>
      rw [mem_asks]
      constructor
      · rintro (started | ⟨rfl, admitted⟩)
        · obtain ⟨i, -, -, -, same⟩ := mem_starts.mp started
          exact absurd same (other _)
        · exact ⟨s, seeks, admitted⟩
      · rintro ⟨s', seeks', admitted⟩
        obtain ⟨rfl, rfl⟩ := seeks.unique seeks'
        exact .inr ⟨rfl, admitted⟩

/-- An instance is started when it is seen stopped and the guard is not cancelled. -/
theorem start_mem_iff (h : t.Course m asked) (id : String) :
    .startInstance id ∈ asked ↔ ∃ i s, t.Sees m i s ∧ i.state = .stopped ∧
      t.guard.isCancelled { instant := s.instant } = false ∧ i.id = id := by
  cases h with
  | idle idle =>
      constructor
      · exact fun member => absurd member List.not_mem_nil
      · rintro ⟨i, s, ⟨r, before, seeks, -⟩, -⟩
        exact absurd seeks (idle r before)
  | @sought r s seeks =>
      rw [mem_asks]
      constructor
      · rintro (started | ⟨rfl, -⟩)
        · obtain ⟨i, seen, stopped, live, same⟩ := mem_starts.mp started
          cases same
          exact ⟨i, _, ⟨r, s, seeks, seen, rfl⟩, stopped, live, rfl⟩
        · cases seeks
      · rintro ⟨i, _, ⟨r', before, seeks', seen, rfl⟩, stopped, live, rfl⟩
        obtain ⟨rfl, rfl⟩ := seeks.unique seeks'
        exact .inl (mem_starts.mpr ⟨i, seen, stopped, live, rfl⟩)

/-- No two requests are of one kind. -/
theorem nodup (h : t.Course m asked) : (asked.map Request.ctorIdx).Nodup := by
  cases h with
  | idle => exact List.nodup_nil
  | @sought r s seeks =>
      unfold asks
      rcases starts_cases (t.answer (.call r) s).2
        (Exchange.observed? ⟨.call r, (t.answer (.call r) s).1⟩) with still | ⟨id, started⟩
      · rw [still]
        split <;> simp
      · rw [started]
        cases seeks <;> split <;> simp [Request.ctorIdx]

/-- There are no other requests. -/
theorem kinds (h : t.Course m asked) {r : Request} (member : r ∈ asked) :
    (∃ request, r = .createInstance request) ∨ (∃ id, r = .getInstance id) ∨
      ∃ id, r = .startInstance id := by
  by_cases start : ∃ id, r = .startInstance id
  · exact .inr (.inr start)
  · obtain ⟨s, seeks, -⟩ := (h.mem_iff fun id same => start ⟨id, same⟩).mp member
    cases seeks with
    | lookUp => exact .inr (.inl ⟨_, rfl⟩)
    | creation => exact .inl ⟨_, rfl⟩

end Course

/-- An instance carries the names of its cluster and its machine, whatever other tags are wanted. -/
theorem Seeks.tags {request : InstanceRequest} {s : t.Scene}
    (h : t.Seeks m (.createInstance request) s) :
    request.tags.get? ClusterApi.clusterNameLabel = some t.scope.clusterName ∧
      request.tags.get? machineNameTag = some t.scope.machineName := by
  cases h with
  | creation reaches unnamed made read value =>
      have differ : ClusterApi.clusterNameLabel ≠ machineNameTag := by decide
      constructor
      · exact (Dictionary.get?_insert_of_ne _ _ _ differ).trans (Dictionary.get?_insert ..)
      · exact Dictionary.get?_insert ..

/-- What is sent to the cloud in a reconcile, exactly. -/
structure Accounts (t : Turn) (m : InfraMachine) (asked : List Request) : Prop where
  /-- An instance is created when it is sought so, the guard is not cancelled then, and its deadline
  has not come. -/
  creation : ∀ request, .createInstance request ∈ asked ↔
    ∃ s, t.Seeks m (.createInstance request) s ∧
      t.guard.isCancelled { instant := s.instant } = false ∧ s.instant < t.guard.deadline
  tagged : ∀ request, .createInstance request ∈ asked →
    request.tags.get? ClusterApi.clusterNameLabel = some t.scope.clusterName ∧
      request.tags.get? machineNameTag = some t.scope.machineName
  /-- An instance is looked for when it is sought so and the guard is not cancelled then. -/
  lookUp : ∀ id, .getInstance id ∈ asked ↔
    ∃ s, t.Seeks m (.getInstance id) s ∧ t.guard.isCancelled { instant := s.instant } = false
  /-- An instance is started when it is seen stopped and the guard is not cancelled then. -/
  start : ∀ id, .startInstance id ∈ asked ↔
    ∃ i s, t.Sees m i s ∧ i.state = .stopped ∧
      t.guard.isCancelled { instant := s.instant } = false ∧ i.id = id
  /-- There are at most one creation, one look and one start. -/
  once : (asked.map Request.ctorIdx).Nodup
  /-- There are no other requests. In particular, no instance is deleted. -/
  kinds : ∀ r ∈ asked, (∃ request, r = .createInstance request) ∨ (∃ id, r = .getInstance id) ∨
    ∃ id, r = .startInstance id

/-- A reconcile sends the cloud the requests that `Accounts` lists, whatever machine, scope, world
and guard it has. -/
theorem accounts_asked (t : Turn) (m : InfraMachine) : t.Accounts m (t.asked m) where
  creation request := by
    rw [(t.course m).mem_iff (by simp)]
    simp [Guard.Admits, Request.patience]
  tagged request member := by
    obtain ⟨s, seeks, -⟩ := ((t.course m).mem_iff (by simp)).mp member
    exact seeks.tags
  lookUp id := by
    rw [(t.course m).mem_iff (by simp)]
    simp [Guard.Admits, Request.patience]
  start := (t.course m).start_mem_iff
  once := (t.course m).nodup
  kinds _ := (t.course m).kinds

/-- An instance that is stopped when it has been created is started at once. -/
example : ((sampleTurn .stopped).asked sampleMachine).map Request.operation =
    ["start instance i-1", "create instance gpu-0"] := by rfl

end Turn

end InfraMachine

end MachineProvider
