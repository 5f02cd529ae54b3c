import MachineProvider.Proofs.Machine.Interruption

/-!
# What a cleanup does before it lets a machine go

A cleanup asks the cloud for the instance of its machine and has it deleted, and says so in an event.
`Scene.deeds` are these requests and events, each with what came of it. `LetsGo` lists the deeds after
which the machine is let go, and `Fails` those after which it is kept as it was and the cleanup is to
be repeated. There is nothing else that a cleanup may do (`cleanUp_settles`).
-/

namespace MachineProvider

open Procedure

/-- Whether an exchange is a request to the cloud or an event. -/
def Exchange.isDeed : Exchange → Bool
  | ⟨.call (.readSecret ..), _⟩ => false
  | ⟨.call _, _⟩ => true
  | ⟨.publish _, _⟩ => true
  | _ => false

/-- The requests to the cloud and the events in a scene, the last one first. -/
def Scene.deeds {κ : Type} (s : Scene κ) : List Exchange :=
  s.log.filter (·.isDeed)

namespace Surroundings

/-- The discipline that keeps the requests to the cloud and the events. -/
def doing : Discipline Service.Question Service.Answer (List Exchange) where
  next deeds q a := if Exchange.isDeed ⟨q, a⟩ then ⟨q, a⟩ :: deeds else deeds
  may _ _ := True
  expects _ _ _ := True

variable {κ α : Type} {W : Surroundings κ} {c : Conditions} {s : Scene κ}

/-- What a service ensures of its result and its deeds, it ensures in all surroundings. -/
theorem run_doing (post : α → List Exchange → Prop) {p : Service α}
    (h : p.Follows doing post s.deeds) :
    post (p.run (W.answer c) s).1 (p.run (W.answer c) s).2.deeds := by
  apply h.run fun _ _ => trivial
  intro q s
  rw [Scene.deeds, answer_log, List.filter_cons]
  rfl

/-- Setting up a client is no deed. -/
theorem deeds_connect (location : SecretLocation) :
    ((Service.connect location).run (W.answer c) s).2.deeds = s.deeds :=
  run_doing (fun _ deeds => deeds = s.deeds)
    (Service.keeps_connect trivial (fun _ => rfl) (fun _ => trivial) fun _ _ => rfl)

end Surroundings

namespace InfraMachine

open Surroundings

/-- The ID of the instance that a machine names, none when its provider ID is not set or malformed. -/
def instanceId? (m : InfraMachine) : Option String :=
  m.spec.providerId.bind ProviderId.parse?

/-- The event about the deletion of an instance. -/
def deletionEvent (m : InfraMachine) (i : Instance) : Event :=
  m.event Event.instanceDeleted "Delete" ("Deleted DataCrunch instance " ++ i.id)

/-- The deeds of a cleanup that lets its machine go, the last one first. `client` says what comes of
setting up a client with the credentials at a place. -/
inductive LetsGo (m : InfraMachine) (client : SecretLocation → Except Error Unit) :
    Option SecretLocation → List Exchange → Prop
  /-- It is not known where the credentials are. -/
  | unlocated : LetsGo m client none []
  /-- No client can be set up with the credentials. -/
  | unconnected {location : SecretLocation} {e : Error} (refused : client location = .error e) :
    LetsGo m client (some location) []
  /-- The machine names no instance. -/
  | unnamed {location : SecretLocation} (connected : client location = .ok ())
    (unnamed : m.instanceId? = none) : LetsGo m client (some location) []
  /-- The cloud does not know the instance that the machine names. -/
  | unknown {location : SecretLocation} (connected : client location = .ok ()) {id : String}
    (named : m.instanceId? = some id) {e : CloudError} (unknown : e.isNotFound = true) :
    LetsGo m client (some location) [⟨.call (.getInstance id), .finished (.error e)⟩]
  /-- The instance was found and is gone after one request to delete it, and an event says so. -/
  | deleted {location : SecretLocation} (connected : client location = .ok ()) {id : String}
    (named : m.instanceId? = some id) {i : Instance} {result : Except CloudError Unit}
    (gone : ∀ e, result = .error e → e.isNotFound = true) :
    LetsGo m client (some location)
      [⟨.publish (m.deletionEvent i), ()⟩, ⟨.call (.deleteInstance i.id), .finished result⟩,
        ⟨.call (.getInstance id), .finished (.ok i)⟩]

/-- The deeds of a cleanup that fails, the last one first, and why it fails. -/
inductive Fails (m : InfraMachine) : Error → List Exchange → Prop
  /-- It is not known whether the instance exists. -/
  | lookUp {id : String} (named : m.instanceId? = some id)
    {outcome : Service.Answer (.call (.getInstance id))} {e : Error}
    (failed : Service.received (.getInstance id) outcome = .error e)
    (unsettled : e.isCloudNotFound = false) :
    Fails m e [⟨.call (.getInstance id), outcome⟩]
  /-- It is not known whether the instance was deleted. -/
  | deletion {id : String} (named : m.instanceId? = some id) {i : Instance}
    {outcome : Service.Answer (.call (.deleteInstance i.id))} {e : Error}
    (failed : Service.received (.deleteInstance i.id) outcome = .error e)
    (unsettled : e.isCloudNotFound = false) :
    Fails m e [⟨.call (.deleteInstance i.id), outcome⟩,
      ⟨.call (.getInstance id), .finished (.ok i)⟩]

/-- How a cleanup may end once there is a client. -/
def TornDown (m : InfraMachine) (client : SecretLocation → Except Error Unit)
    (location : SecretLocation) (config : Config) (r : InfraMachine × Except Error Action)
    (deeds : List Exchange) : Prop :=
  (r = m.release ∧ LetsGo m client (some location) deeds) ∨
    ∃ e, r = (m, .error (.requeue e config.requeueInterval)) ∧ Fails m e deeds

/-- What a look for the instance of a machine finds, and the deeds in it. -/
inductive LooksUp (m : InfraMachine) : Except Error (Option Instance) → List Exchange → Prop
  | unset (unnamed : m.instanceId? = none) : LooksUp m (.ok none) []
  | malformed (unnamed : m.instanceId? = none) (raw : String) :
    LooksUp m (.error (.invalidProviderId raw)) []
  | unknown {id : String} (named : m.instanceId? = some id) {e : CloudError}
    (unknown : e.isNotFound = true) :
    LooksUp m (.ok none) [⟨.call (.getInstance id), .finished (.error e)⟩]
  | failed {id : String} (named : m.instanceId? = some id)
    {outcome : Service.Answer (.call (.getInstance id))} {e : Error}
    (failed : Service.received (.getInstance id) outcome = .error e)
    (unsettled : e.isCloudNotFound = false) (valid : ∀ raw, e ≠ .invalidProviderId raw) :
    LooksUp m (.error e) [⟨.call (.getInstance id), outcome⟩]
  | found {id : String} (named : m.instanceId? = some id) (i : Instance) :
    LooksUp m (.ok (some i)) [⟨.call (.getInstance id), .finished (.ok i)⟩]

variable {m : InfraMachine} {config : Config} {client : SecretLocation → Except Error Unit}
  {location : SecretLocation}

theorem looksUp_findInstance (m : InfraMachine) :
    m.findInstance.Follows doing (LooksUp m) [] := by
  unfold findInstance
  cases raw : m.spec.providerId with
  | none => exact .unset (by simp [instanceId?, raw])
  | some providerId =>
      dsimp only
      cases parsed : ProviderId.parse? providerId with
      | none => exact .malformed (by simp [instanceId?, raw, parsed]) _
      | some id =>
          have named : m.instanceId? = some id := by simp [instanceId?, raw, parsed]
          constructor
          · trivial
          rintro (cause | cause | (e | i)) -
          · cases cause <;> exact .failed named rfl rfl (by simp [Interruption.error])
          · cases cause <;> exact .failed named rfl rfl (by simp [Interruption.error])
          · cases known : (Error.cloud e).isCloudNotFound with
            | true =>
                simp only [Service.received, Request.toError, done_bind, known, if_true]
                exact .unknown named known
            | false =>
                simp only [Service.received, Request.toError, done_bind, known]
                exact .failed named rfl known (by simp)
          · exact .found named i

/-- Once there is a client, the machine is let go or kept as it was. -/
theorem tornDown_tearDown (connected : client location = .ok ()) :
    (m.tearDown config).Follows doing (TornDown m client location config) [] := by
  unfold tearDown
  apply (looksUp_findInstance m).bind
  rintro _ _ (unnamed | ⟨unnamed, raw⟩ | ⟨named, unknown⟩ | ⟨named, failed, unsettled, valid⟩ |
    ⟨named, i⟩)
  · exact .inl ⟨rfl, .unnamed connected unnamed⟩
  · exact .inl ⟨rfl, .unnamed connected unnamed⟩
  · exact .inl ⟨rfl, .unknown connected named unknown⟩
  · split
    next invalid => exact absurd (Except.error.inj invalid) (valid _)
    next same =>
      obtain rfl := Except.error.inj same
      exact .inr ⟨_, rfl, .lookUp named failed unsettled⟩
    next absent => cases absent
    next found => cases found
  · constructor
    · trivial
    rintro (cause | cause | (e | ⟨⟩)) -
    · cases cause <;> exact .inr ⟨_, rfl, .deletion named rfl rfl⟩
    · cases cause <;> exact .inr ⟨_, rfl, .deletion named rfl rfl⟩
    · cases known : (Error.cloud e).isCloudNotFound with
      | true =>
          have gone : ∀ e', Except.error e = (.error e' : Except CloudError Unit) →
              e'.isNotFound = true := by
            rintro _ ⟨⟩
            exact known
          simp only [Service.received, Request.toError, done_bind, known, if_true]
          exact ⟨trivial, fun _ _ => .inl ⟨rfl, .deleted connected named gone⟩⟩
      | false =>
          simp only [Service.received, Request.toError, done_bind, known]
          exact .inr ⟨_, rfl, .deletion named rfl known⟩
    · exact ⟨trivial, fun _ _ => .inl ⟨rfl, .deleted connected named (by simp)⟩⟩

/-- A cleanup that knows where the credentials are needs a client for the cloud. -/
theorem cleanUp_of_some (guarded : m.hasFinalizer finalizer = true) :
    m.cleanUp (some location) config = (Service.connect location).bind fun
      | .error _ => .done m.release
      | .ok () => m.tearDown config := by
  unfold cleanUp
  rw [guarded]
  rfl

/-- A cleanup of a machine with the finalizer ends in one of two ways. The finalizer is off and
nothing else has changed, and `LetsGo` says after which deeds; or the machine is exactly as it was,
the cleanup is to be repeated after the configured interval, and `Fails` says what has failed. -/
theorem cleanUp_settles {κ : Type} (W : Surroundings κ) (g : Guard)
    (unreadable : Option ApiFailure) (world : κ) (instant : Nat) (m : InfraMachine)
    (credentials : Option SecretLocation) (config : Config)
    (guarded : m.hasFinalizer finalizer = true) :
    let c := Conditions.under g unreadable
    let ran := m.cleanUpIn W c world instant credentials config
    let client := fun location =>
      ((Service.connect location).run (W.answer c) { world, instant, log := [] }).1
    let kept := m.metadata.finalizerList.filter (· != finalizer)
    (ran.1 = ({ m with metadata.finalizers := some kept }, .ok .awaitChange) ∧
        LetsGo m client credentials ran.2.deeds) ∨
      ∃ e, ran.1 = (m, .error (.requeue e config.requeueInterval)) ∧ Fails m e ran.2.deeds := by
  intro c ran client kept
  change (ran.1 = m.release ∧ LetsGo m client credentials ran.2.deeds) ∨ _
  cases credentials with
  | none =>
      have ends : ran = (m.release, { world, instant, log := [] }) := by
        simp only [ran, cleanUpIn, cleanUp, guarded]
        rfl
      rw [ends]
      exact .inl ⟨rfl, .unlocated⟩
  | some location =>
      have quiet : ((Service.connect location).run (W.answer c)
          { world, instant, log := [] }).2.deeds = [] := deeds_connect location
      have ends : ran = _ := congrArg (Procedure.run (W.answer c) · { world, instant, log := [] })
        (cleanUp_of_some guarded)
      rw [run_bind] at ends
      rcases connected : (Service.connect location).run (W.answer c)
        { world, instant, log := [] } with ⟨e | ⟨⟩, s⟩
      · rw [connected] at ends quiet
        rw [ends]
        change (_ = _ ∧ LetsGo m client _ s.deeds) ∨ _
        rw [quiet]
        exact .inl ⟨rfl, .unconnected (congrArg Prod.fst connected)⟩
      · rw [connected] at ends quiet
        rw [ends]
        apply run_doing (TornDown m client location config)
        rw [quiet]
        exact tornDown_tearDown (congrArg Prod.fst connected)

/-- The instance exists and is deleted, and the machine goes. -/
theorem cleanUp_settles_of_sample :
    let ran := sampleDeleted.cleanUpIn sampleSurroundings (.under { deadline := 1000 } none) true 0
      (some sampleLocation) {}
    sampleDeleted.hasFinalizer finalizer = true ∧ ran.2.world = false ∧
      ran.1.1.hasFinalizer finalizer = false ∧
        ∃ client, LetsGo sampleDeleted client (some sampleLocation) ran.2.deeds := by
  intro ran
  have guarded : sampleDeleted.hasFinalizer finalizer = true := rfl
  rcases cleanUp_settles sampleSurroundings { deadline := 1000 } none true 0 sampleDeleted
    (some sampleLocation) {} guarded with ⟨released, deeds⟩ | ⟨e, kept, -⟩
  · exact ⟨guarded, rfl, rfl, _, deeds⟩
  · cases kept

end InfraMachine

end MachineProvider
