import MachineProvider.Proofs.Machine.Progress

/-!
# What reconciling and cleaning up ask of the services

Each part of a reconcile is described by the records that it may end with. `follows_reconcile` and
`follows_cleanUp` put the parts together: what they give back may be written over the version of the
machine that the run knows.
-/

namespace MachineProvider.InfraMachine

open Procedure

variable {reaches : Prop} {«namespace» : String} {s : Progress}

namespace Progress

/-- The object that a run works on, before it is written: its metadata are those of the known
version, and it has the provider ID that is to follow. -/
structure Working (s : Progress) (m o : InfraMachine) : Prop where
  known : s.known = some m
  refused : s.refused = false
  recorded : m.spec.providerId.isSome = true → s.recorded = true
  metadata : o.metadata = m.metadata
  providerId : o.spec.providerId = s.providerIdAfter m

/-- An object that may be written over the known version. -/
structure Carries (reaches : Prop) (s : Progress) (m o : InfraMachine) : Prop where
  known : s.known = some m
  refused : s.refused = false
  recorded : m.spec.providerId.isSome = true → s.recorded = true
  prepared : s.Prepared reaches m o

theorem Working.of_known {m : InfraMachine} (known : s.known = some m) (refused : s.refused = false)
    (recorded : m.spec.providerId.isSome = true → s.recorded = true) (unborn : s.created = none) :
    s.Working m m where
  known := known
  refused := refused
  recorded := recorded
  metadata := rfl
  providerId := by simp [providerIdAfter, unborn]

theorem Working.carries {m o : InfraMachine} (h : s.Working m o) : s.Carries reaches m o where
  known := h.known
  refused := h.refused
  recorded := h.recorded
  prepared :=
    { name := by rw [h.metadata]
      version := by rw [h.metadata]
      providerId := h.providerId
      finalizer := fun hf => .inl (by simpa only [Object.hasFinalizer, h.metadata] using hf) }

/-- The status of the object does not matter. -/
theorem Working.of_eq {m o o' : InfraMachine} (h : s.Working m o)
    (metadata : o'.metadata = o.metadata) (spec : o'.spec = o.spec) : s.Working m o' where
  known := h.known
  refused := h.refused
  recorded := h.recorded
  metadata := metadata.trans h.metadata
  providerId := by rw [spec, h.providerId]

/-- What the cloud answered about instances does not matter. -/
theorem Working.of_asked {m o : InfraMachine} (h : s.Working m o) (found : List (String × String))
    (gone : List String) : ({ s with found, gone } : Progress).Working m o where
  known := h.known
  refused := h.refused
  recorded := h.recorded
  metadata := h.metadata
  providerId := h.providerId

/-- Taking the finalizer off leaves an object that may be written when the machine may lose it. -/
theorem Working.release {m : InfraMachine} (h : s.Working m m) (free : s.MayRelease reaches m) :
    s.Carries reaches m (m.removeFinalizer finalizer) where
  known := h.known
  refused := h.refused
  recorded := h.recorded
  prepared :=
    { name := rfl
      version := rfl
      providerId := h.providerId
      finalizer := fun _ => .inr free }

end Progress

section Parts

variable {o : InfraMachine} {r : Request}

theorem follows_now {α : Type} {post : α → Progress → Prop}
    (next : Timestamp → Service α)
    (h : ∀ now, (next now).Follows (Progress.discipline reaches «namespace»).onServices post s) :
    (Service.now >>= next).Follows (Progress.discipline reaches «namespace»).onServices post s :=
  ⟨trivial, fun now _ => h now⟩

theorem follows_publish {α : Type} {post : α → Progress → Prop} (event : Event)
    (next : Service α)
    (h : next.Follows (Progress.discipline reaches «namespace»).onServices post s) :
    (Service.publish event >>= fun _ => next).Follows
      (Progress.discipline reaches «namespace»).onServices post s :=
  ⟨trivial, fun _ _ => h⟩

theorem follows_markNotReady {post : InfraMachine → Progress → Prop} (reason : String)
    (severity : Severity) (message : String)
    (h : ∀ o' : InfraMachine, o'.metadata = o.metadata → o'.spec = o.spec → post o' s) :
    (o.markNotReady reason severity message).Follows
      (Progress.discipline reaches «namespace»).onServices post s :=
  follows_now _ fun _ => h _ rfl rfl

theorem follows_recordFailure {post : InfraMachine → Progress → Prop} (message : String)
    (h : ∀ o' : InfraMachine, o'.metadata = o.metadata → o'.spec = o.spec → post o' s) :
    (o.recordFailure message).Follows (Progress.discipline reaches «namespace»).onServices post s :=
  follows_now _ fun _ => h _ rfl rfl

theorem follows_markRunning {post : InfraMachine → Progress → Prop} (found : Instance)
    (h : ∀ o' : InfraMachine, o'.metadata = o.metadata → o'.spec = o.spec → post o' s) :
    (o.markRunning found).Follows (Progress.discipline reaches «namespace»).onServices post s :=
  follows_now _ fun _ => h _ rfl rfl

/-- What follows a request is looked at for every way in which it may go. -/
theorem follows_call {post : Except Error r.Success → Progress → Prop}
    (may : (Progress.discipline reaches «namespace»).onServices.may s (.call r))
    (h : ∀ outcome, post (Service.received r outcome) (s.next (.service (.call r)) outcome)) :
    (Service.call r).Follows (Progress.discipline reaches «namespace»).onServices post s :=
  ⟨may, fun outcome _ => h outcome⟩

/-- Reading a secret teaches nothing about the machine. -/
theorem follows_readSecret {post : Except Error (Option SecretData) → Progress → Prop}
    (purpose : SecretPurpose) (location : SecretLocation) (h : ∀ result, post result s) :
    (Service.call (.readSecret purpose location)).Follows
      (Progress.discipline reaches «namespace»).onServices post s :=
  follows_call trivial fun _ => h _

/-- Setting up a client teaches nothing about the machine. It does not fail when the way to the cloud
is open. -/
theorem follows_connect {post : Except Error Unit → Progress → Prop} (location : SecretLocation)
    (succeeded : post (.ok ()) s)
    (failed : ∀ e, ¬ (reaches ∧ s.IsDeleting) → post (.error e) s) :
    (Service.connect location).Follows (Progress.discipline reaches «namespace»).onServices post
      s := by
  have read : (Service.credentialsAt location).Follows
      (Progress.discipline reaches «namespace»).onServices
      (fun result s' => s' = s ∧ ∀ e, result = .error e → ¬ (reaches ∧ s.IsDeleting)) s := by
    refine ⟨trivial, ?_⟩
    intro outcome ⟨_, _, resolves⟩
    by_cases opened : reaches ∧ s.IsDeleting
    · obtain ⟨data, credentials, rfl, usable⟩ := resolves opened.1 opened.2
      refine ⟨rfl, ?_⟩
      intro e failed
      rw [usable] at failed
      cases failed
    · rcases outcome with (cause | cause | (e | data | data))
      · exact ⟨rfl, fun _ _ => opened⟩
      · exact ⟨rfl, fun _ _ => opened⟩
      · exact ⟨rfl, fun _ _ => opened⟩
      · exact ⟨rfl, fun _ _ => opened⟩
      · exact ⟨rfl, fun _ _ => opened⟩
  refine read.bind ?_
  rintro (e | credentials) s' ⟨rfl, blocked⟩
  · exact failed e (blocked e rfl)
  · refine ⟨trivial, ?_⟩
    rintro (e | -) ⟨-, -, resolves⟩
    · refine failed _ ?_
      rintro ⟨opened, deleting⟩
      cases resolves opened deleting
    · exact succeeded

/-- Looking for the instance of a machine asks at most for the instance that the machine names. A
failure does not say that the provider ID is malformed unless it is. -/
theorem follows_findInstance {post : Except Error (Option Instance) → Progress → Prop}
    (unnamed : o.spec.providerId = none → post (.ok none) s)
    (malformed : ∀ raw, o.spec.providerId = some raw → ProviderId.parse? raw = none →
      post (.error (.invalidProviderId raw)) s)
    (found : ∀ raw id i, o.spec.providerId = some raw → ProviderId.parse? raw = some id →
      post (.ok (some i)) { s with found := (id, i.id) :: s.found })
    (missing : ∀ raw id, o.spec.providerId = some raw → ProviderId.parse? raw = some id →
      post (.ok none) { s with gone := id :: s.gone })
    (failed : ∀ e, (∀ raw, e ≠ .invalidProviderId raw) → post (.error e) s) :
    o.findInstance.Follows (Progress.discipline reaches «namespace»).onServices post s := by
  unfold findInstance
  cases hraw : o.spec.providerId with
  | none => exact unnamed hraw
  | some raw =>
      dsimp only
      cases hid : ProviderId.parse? raw with
      | none => exact malformed raw hraw hid
      | some id =>
          refine (follows_bind _ _ _ _).mpr (follows_call (r := .getInstance id) trivial ?_)
          rintro (cause | cause | (e | i))
          · cases cause <;> exact failed _ (by simp [Interruption.error])
          · cases cause <;> exact failed _ (by simp [Interruption.error])
          · by_cases unknown : e.isNotFound = true
            · simpa [Service.received, Request.toError, Progress.next, Error.isCloudNotFound,
                unknown] using missing raw id hraw hid
            · simpa [Service.received, Request.toError, Progress.next, Error.isCloudNotFound,
                unknown] using failed (.cloud e) (by simp)
          · exact found raw id i hraw hid

/-- Launching an instance either creates one, which is noted, or fails without a trace. -/
theorem follows_launch {post : Except Error Instance → Progress → Prop} (scope : MachineScope)
    (defaultImage : String) {gzip : Gzip.Compressor} (may : s.MayCreate)
    (created : ∀ i, post (.ok i) { s with created := some i })
    (failed : ∀ e, post (.error e) s) :
    (o.launch scope defaultImage gzip).Follows (Progress.discipline reaches «namespace»).onServices
      post s := by
  unfold launch
  cases scope.bootstrapDataSecret with
  | none => exact failed _
  | some secret =>
      have read : ∀ location compress, (bootstrapData location compress gzip).Follows
          (Progress.discipline reaches «namespace»).onServices (fun _ s' => s' = s) s := by
        intro location compress
        refine Follows.bind (follows_readSecret .bootstrapData location fun _ => rfl) ?_
        rintro (e | data | data) s' rfl
        · rfl
        · rfl
        · dsimp only
          split <;> rfl
      refine (read _ _).bind ?_
      rintro (e | userData) s' rfl
      · exact failed e
      · refine follows_call may ?_
        rintro (cause | cause | (e | i))
        · exact failed _
        · exact failed _
        · exact failed _
        · exact created i

end Parts

section Normal

variable {m o : InfraMachine} {config : Config} {gzip : Gzip.Compressor}

/-- Creating gives back a machine with the ID of the new instance, or the machine as it was. -/
theorem follows_create {post : InfraMachine × Except Error Instance → Progress → Prop}
    (scope : MachineScope) (h : s.Working m o) (may : s.MayCreate)
    (named : o.spec.providerId = none)
    (created : ∀ o' i s', Progress.Working s' m o' → o'.spec.providerId.isSome = true →
      post (o', .ok i) s')
    (failed : ∀ o' e, s.Working m o' → post (o', .error e) s) :
    (o.create scope config gzip).Follows (Progress.discipline reaches «namespace»).onServices
      post s := by
  unfold create
  refine (follows_bind _ _ _ _).mpr (follows_launch scope _ may ?_ ?_)
  · intro i
    have stamped : o.stampProviderId (ProviderId.ofInstance i.id) =
        { o with spec.providerId := some (ProviderId.ofInstance i.id) } := by
      simp [stampProviderId, named]
    have working : Progress.Working { s with created := some i } m
        (o.stampProviderId (ProviderId.ofInstance i.id)) :=
      { known := h.known
        refused := h.refused
        recorded := h.recorded
        metadata := by rw [stamped]; exact h.metadata
        providerId := by rw [stamped]; rfl }
    refine follows_publish _ _ ?_
    refine (follows_bind _ _ _ _).mpr (follows_markNotReady _ _ _ ?_)
    intro o' metadata spec
    refine created o' i _ (working.of_eq metadata spec) ?_
    rw [spec, stamped]
    rfl
  · intro e
    refine (follows_bind _ _ _ _).mpr (follows_markNotReady _ _ _ ?_)
    intro o' metadata spec
    exact failed o' e (h.of_eq metadata spec)

/-- Reporting on an instance changes nothing but the status. -/
theorem follows_project (found : Instance) (h : s.Working m o) :
    (o.project found config).Follows (Progress.discipline reaches «namespace»).onServices
      (fun r s' => s'.Carries reaches m r.1) s := by
  have recorded : ∀ state, s.Working m (o.recordState state) := fun _ => h.of_eq rfl rfl
  unfold project
  cases found.state with
  | running =>
      refine (follows_bind _ _ _ _).mpr (follows_markRunning _ ?_)
      intro o' metadata spec
      exact ((recorded _).of_eq metadata spec).carries
  | stopped =>
      refine (follows_bind _ _ _ _).mpr (follows_call (r := .startInstance found.id) trivial ?_)
      intro outcome
      have asked : s.next (.service (.call (.startInstance found.id))) outcome = s := by
        rcases outcome with (cause | cause | (e | ⟨⟩)) <;> rfl
      rw [asked]
      rcases Service.received _ outcome with (e | ⟨⟩)
      · exact (recorded _).carries
      · exact (recorded _).carries
  | terminated =>
      refine (follows_bind _ _ _ _).mpr (follows_recordFailure _ ?_)
      intro o' metadata spec
      exact ((recorded _).of_eq metadata spec).carries
  | _ =>
      refine (follows_bind _ _ _ _).mpr (follows_markNotReady _ _ _ ?_)
      intro o' metadata spec
      exact ((recorded _).of_eq metadata spec).carries

/-- A machine that names its instance is settled without another provider ID. -/
theorem follows_settle (found : Instance) (h : s.Working m o)
    (named : o.spec.providerId.isSome = true) :
    (o.settle found config).Follows (Progress.discipline reaches «namespace»).onServices
      (fun r s' => s'.Carries reaches m r.1) s := by
  have stamped : o.stampProviderId (ProviderId.ofInstance found.id) = o := by
    simp [stampProviderId, named]
  rw [settle, stamped]
  exact follows_project found h

/-- An instance is created only when the machine names none. -/
theorem follows_converge (scope : MachineScope) (h : s.Working m m) (unborn : s.created = none)
    (finalized : m.hasFinalizer finalizer = true) (alive : m.metadata.isDeleted = false) :
    (m.converge scope config gzip).Follows (Progress.discipline reaches «namespace»).onServices
      (fun r s' => s'.Carries reaches m r.1) s := by
  unfold converge
  refine (follows_bind _ _ _ _).mpr (follows_findInstance ?_ ?_ ?_ ?_ ?_)
  · intro unnamed
    have may : s.MayCreate := ⟨unborn, m, h.known, unnamed, finalized, alive⟩
    simp only [unnamed]
    refine (follows_bind _ _ _ _).mpr (follows_create scope h may unnamed ?_ ?_)
    · intro o' i s' working named
      exact follows_settle i working named
    · intro o' e working
      exact working.carries
  · intro raw _ _
    exact h.carries
  · intro raw id i hraw _
    exact follows_settle i (h.of_asked _ _) (by rw [hraw]; rfl)
  · intro raw id hraw _
    simp only [hraw]
    refine (follows_bind _ _ _ _).mpr (follows_recordFailure _ ?_)
    intro o' metadata spec
    exact ((h.of_asked _ _).of_eq metadata spec).carries
  · intro e _
    exact h.carries

/-- A reconcile of a machine that is not deleted gives back what may be written over it. -/
theorem follows_reconcile (scope : MachineScope) (h : s.Working m m) (unborn : s.created = none)
    (alive : m.metadata.isDeleted = false) :
    (m.reconcile scope config gzip).Follows (Progress.discipline reaches «namespace»).onServices
      (fun r s' => s'.Carries reaches m r.1) s := by
  unfold reconcile
  split
  · exact h.carries
  split
  · exact
      { known := h.known
        refused := h.refused
        recorded := h.recorded
        prepared :=
          { name := rfl
            version := rfl
            providerId := h.providerId
            finalizer := fun _ => .inl (by simp [Object.hasFinalizer, Object.pushFinalizer,
              Metadata.finalizerList]) } }
  next finalized =>
  split
  · refine (follows_bind _ _ _ _).mpr (follows_markNotReady _ _ _ ?_)
    intro o' metadata spec
    exact (h.of_eq metadata spec).carries
  split
  · refine (follows_bind _ _ _ _).mpr (follows_markNotReady _ _ _ ?_)
    intro o' metadata spec
    exact (h.of_eq metadata spec).carries
  refine (follows_bind _ _ _ _).mpr (follows_connect _ ?_ ?_)
  · exact follows_converge scope h unborn (by simpa using finalized) alive
  · intro e _
    refine (follows_bind _ _ _ _).mpr (follows_markNotReady _ _ _ ?_)
    intro o' metadata spec
    exact (h.of_eq metadata spec).carries

end Normal

section Deleted

variable {m : InfraMachine} {config : Config}

/-- Once there is a client, the finalizer goes only when the instance of the machine is gone. -/
theorem follows_tearDown (h : s.Working m m) (unborn : s.created = none)
    (deleted : m.metadata.isDeleted = true) :
    (m.tearDown config).Follows (Progress.discipline reaches «namespace»).onServices
      (fun r s' => s'.Carries reaches m r.1) s := by
  unfold tearDown
  refine (follows_bind _ _ _ _).mpr (follows_findInstance ?_ ?_ ?_ ?_ ?_)
  · intro unnamed
    refine h.release ⟨deleted, unborn, ?_⟩
    intro _ raw hraw
    rw [unnamed] at hraw
    cases hraw
  · intro raw hraw malformed
    refine h.release ⟨deleted, unborn, ?_⟩
    intro _ raw' hraw' id hid
    obtain rfl : raw = raw' := Option.some.inj (hraw.symm.trans hraw')
    rw [malformed] at hid
    cases hid
  · intro raw id i hraw hid
    have gone : Progress.MayRelease reaches
        { s with found := (id, i.id) :: s.found, gone := i.id :: s.gone } m := by
      refine ⟨deleted, unborn, ?_⟩
      intro _ raw' hraw' id' hid'
      obtain rfl : raw = raw' := Option.some.inj (hraw.symm.trans hraw')
      obtain rfl : id = id' := Option.some.inj (hid.symm.trans hid')
      exact .inr ⟨i.id, List.mem_cons_self, List.mem_cons_self⟩
    have released := (h.of_asked ((id, i.id) :: s.found) (i.id :: s.gone)).release gone
    have kept : Progress.Carries reaches { s with found := (id, i.id) :: s.found } m m :=
      (h.of_asked ((id, i.id) :: s.found) s.gone).carries
    refine (follows_bind _ _ _ _).mpr (follows_call (r := .deleteInstance i.id) trivial ?_)
    rintro (cause | cause | (e | ⟨⟩))
    · cases cause <;> exact kept
    · cases cause <;> exact kept
    · by_cases unknown : e.isNotFound = true
      · simp only [Service.received, Request.toError, Error.isCloudNotFound, Progress.next,
          unknown, if_true]
        exact follows_publish _ _ released
      · simpa [Service.received, Request.toError, Error.isCloudNotFound, Progress.next,
          unknown] using kept
    · exact follows_publish _ _ released
  · intro raw id hraw hid
    refine (h.of_asked s.found (id :: s.gone)).release ⟨deleted, unborn, ?_⟩
    intro _ raw' hraw' id' hid'
    obtain rfl : raw = raw' := Option.some.inj (hraw.symm.trans hraw')
    obtain rfl : id = id' := Option.some.inj (hid.symm.trans hid')
    exact .inl List.mem_cons_self
  · intro e known
    cases e <;> first | exact h.carries | exact absurd rfl (known _)

/-- Without a client the finalizer goes too, which does not happen when the way to the cloud is
open. -/
theorem follows_cleanUp (credentials : Option SecretLocation) (h : s.Working m m)
    (unborn : s.created = none) (deleted : m.metadata.isDeleted = true)
    (located : reaches → credentials.isSome = true) :
    (m.cleanUp credentials config).Follows (Progress.discipline reaches «namespace»).onServices
      (fun r s' => s'.Carries reaches m r.1) s := by
  have blind : ¬ reaches → s.MayRelease reaches m := by
    intro closed
    exact ⟨deleted, unborn, fun opened => absurd opened closed⟩
  unfold cleanUp
  split
  · exact h.carries
  cases credentials with
  | none => exact h.release (blind fun opened => absurd (located opened) (by decide))
  | some location =>
      refine (follows_bind _ _ _ _).mpr (follows_connect _ ?_ ?_)
      · exact follows_tearDown h unborn deleted
      · intro e blocked
        exact h.release (blind fun opened => blocked ⟨opened, m, h.known, deleted⟩)

end Deleted

end MachineProvider.InfraMachine
