import MachineProvider.Proofs.Machine.Recording
import MachineProvider.Proofs.Machine.SingleInstance
import Mathlib.Logic.Relation

/-!
# Shutting the controllers down

The controllers work on several objects at once until they are told to stop. A run does not give up a
request that creates an instance once it was sent, and does not end before it has tried to record the
instance. But the controllers do not wait for their runs: as soon as they are told to stop they return,
and the runs in progress are dropped. So an instance may be lost exactly when its creation is under way
at that moment (`creation_lost_iff`).
-/

namespace MachineProvider.Shutdown

open Relation Procedure

/-- Where a run is. -/
inductive Position where
  /-- It goes on. -/
  | working (rest : Controller Run)
  /-- It has sent the request that creates an instance, and waits for the answer. -/
  | waiting (request : InstanceRequest)
    (next : Controller.Answer (.service (.call (.createInstance request))) → Controller Run)

/-- A run in progress. -/
structure Flight where
  position : Position
  /-- The instances that are still to be recorded. -/
  pending : List Instance := []

/-- Whether a run is creating an instance: it waits for the answer, or has not tried to record it. -/
def Flight.IsCreating (f : Flight) : Prop :=
  (∃ request next, f.position = .waiting request next) ∨ f.pending ≠ []

/-- Whether a question is the request that creates an instance. -/
def creates : Controller.Question → Bool
  | .service (.call (.createInstance _)) => true
  | _ => false

/-- How a run goes on, depending on whether the controllers were told to stop. -/
inductive Flight.Goes (stopping : Bool) : Flight → Flight → Prop
  | asks {q : Controller.Question} {next : Controller.Answer q → Controller Run}
    {pending : List Instance} (a : Controller.Answer q) (other : creates q = false)
    (agrees : InfraMachine.Progress.Agrees q a) :
    Goes stopping ⟨.working (.ask q next), pending⟩
      ⟨.working (next a), Recording.next pending q a⟩
  /-- The guard of the run does not let the request through. -/
  | refuses {request : InstanceRequest}
    {next : Controller.Answer (.service (.call (.createInstance request))) → Controller Run}
    {pending : List Instance} {g : Guard} {start duration : Nat} {cause : Interruption}
    (token : g.isCancelled { instant := start } = stopping)
    (refused : g.call (Request.createInstance request).patience start duration = .refused cause) :
    Goes stopping ⟨.working (.ask (.service (.call (.createInstance request))) next), pending⟩
      ⟨.working (next (.refused cause)), pending⟩
  /-- The request is sent. -/
  | sends {request : InstanceRequest}
    {next : Controller.Answer (.service (.call (.createInstance request))) → Controller Run}
    {pending : List Instance} {g : Guard} {start duration ended : Nat}
    (token : g.isCancelled { instant := start } = stopping)
    (sent : g.call (Request.createInstance request).patience start duration = .finished ended) :
    Goes stopping ⟨.working (.ask (.service (.call (.createInstance request))) next), pending⟩
      ⟨.waiting request next, pending⟩
  /-- The request is answered, also when the controllers are to stop. -/
  | hears {request : InstanceRequest}
    {next : Controller.Answer (.service (.call (.createInstance request))) → Controller Run}
    {pending : List Instance} (result : Except CloudError Instance) :
    Goes stopping ⟨.waiting request next, pending⟩
      ⟨.working (next (.finished result)),
        Recording.next pending (.service (.call (.createInstance request))) (.finished result)⟩

/-- The controllers at work. -/
structure Controllers where
  /-- Whether they were told to stop. -/
  stopping : Bool
  /-- Whether they have returned. -/
  returned : Bool
  flights : List Flight
  /-- The runs that have ended or were dropped. -/
  gone : List Flight

/-- The controllers when they are told to stop. -/
def Controllers.stop (s : Controllers) : Controllers :=
  { s with stopping := true }

/-- A run of one of the controllers, however bootstrap data is compressed. -/
def IsRun (config : Config) (rest : Controller Run) : Prop :=
  ∃ «namespace» name, (∃ gzip, rest = InfraMachine.run «namespace» name config gzip) ∨
    rest = InfraCluster.run «namespace» name config

/-- What happens next. -/
inductive Step (config : Config) : Controllers → Controllers → Prop
  | begins {s : Controllers} {rest : Controller Run} (working : s.returned = false)
    (run : IsRun config rest) :
    Step config s { s with flights := { position := .working rest } :: s.flights }
  | goes {s : Controllers} {before after : List Flight} {f f' : Flight}
    (current : s.flights = before ++ f :: after) (goes : f.Goes s.stopping f') :
    Step config s { s with flights := before ++ f' :: after }
  | ends {s : Controllers} {before after : List Flight} {result : Run} {pending : List Instance}
    (current : s.flights = before ++ ⟨.working (.done result), pending⟩ :: after) :
    Step config s
      { s with flights := before ++ after, gone := ⟨.working (.done result), pending⟩ :: s.gone }
  | stops {s : Controllers} : Step config s s.stop
  /-- The controllers return because they were told to stop, whatever their runs are doing. -/
  | returns {s : Controllers} (working : s.returned = false) (told : s.stopping = true) :
    Step config s { s with returned := true, flights := [], gone := s.flights ++ s.gone }
  /-- The controllers return because there is nothing left to do. -/
  | exhausts {s : Controllers} (working : s.returned = false) (idle : s.flights = []) :
    Step config s { s with returned := true }

/-- How the controllers start: with a faulty configuration they return at once. -/
structure Controllers.Starts (config : Config) (s : Controllers) : Prop where
  returned : s.returned = true ↔ ∃ fault, config.validate = .error fault
  flights : s.flights = []
  gone : s.gone = []

/-- Whether the controllers may get there. -/
def Reachable (config : Config) (s : Controllers) : Prop :=
  ∃ start : Controllers, start.Starts config ∧ ReflTransGen (Step config) start s

variable {config : Config} {s s' : Controllers} {f f' : Flight} {stopping : Bool}

/-- Whether a run will have tried to record every instance when it ends. -/
def Flight.IsSound (f : Flight) : Prop :=
  match f.position with
  | .working rest => rest.Follows Recording.discipline Recording.Cleared f.pending
  | .waiting request next => ∀ result : Except CloudError Instance,
    (next (.finished result)).Follows Recording.discipline Recording.Cleared
      (Recording.next f.pending (.service (.call (.createInstance request))) (.finished result))

theorem Flight.isSound_of_isRun {rest : Controller Run} (h : IsRun config rest) :
    Flight.IsSound { position := .working rest } := by
  obtain ⟨«namespace», name, ⟨gzip, rfl⟩ | rfl⟩ := h
  · exact Recording.follows_machine_run _ _ _ gzip
  · exact Recording.keeps_cluster_run _ _ _

theorem Flight.Goes.isSound (h : f.Goes stopping f') (sound : f.IsSound) : f'.IsSound := by
  cases h with
  | asks a other agrees => exact sound.2 a agrees
  | @refuses request next pending g start duration cause token refused =>
      have kept : Recording.next pending (.service (.call (.createInstance request)))
          (.refused cause) = pending := List.filter_eq_self.mpr fun _ _ => rfl
      have rest := sound.2 (.refused cause) trivial
      change (next (.refused cause)).Follows Recording.discipline _ (Recording.next _ _ _) at rest
      rw [kept] at rest
      exact rest
  | sends token sent => exact fun result => sound.2 (.finished result) trivial
  | hears result => exact sound result

/-- What holds until the controllers return: a run that has ended has tried to record what it created. -/
structure Controllers.IsSound (s : Controllers) : Prop where
  flights : ∀ f ∈ s.flights, f.IsSound
  gone : s.returned = false → ∀ f ∈ s.gone, ¬ f.IsCreating

theorem Controllers.IsSound.step (h : s.IsSound) (step : Step config s s') : s'.IsSound := by
  obtain ⟨flights, gone⟩ := h
  cases step with
  | begins working run =>
      refine ⟨?_, gone⟩
      rw [List.forall_mem_cons]
      exact ⟨Flight.isSound_of_isRun run, flights⟩
  | goes current goes =>
      refine ⟨?_, gone⟩
      rw [current, List.forall_mem_append, List.forall_mem_cons] at flights
      rw [List.forall_mem_append, List.forall_mem_cons]
      exact ⟨flights.1, goes.isSound flights.2.1, flights.2.2⟩
  | ends current =>
      rw [current, List.forall_mem_append, List.forall_mem_cons] at flights
      obtain ⟨left, done, right⟩ := flights
      refine ⟨List.forall_mem_append.mpr ⟨left, right⟩, ?_⟩
      intro working
      rw [List.forall_mem_cons]
      refine ⟨?_, gone working⟩
      rintro (⟨request, next, waiting⟩ | pending)
      · cases waiting
      · exact pending done
  | stops => exact ⟨flights, gone⟩
  | returns working told => exact ⟨List.forall_mem_nil _, nofun⟩
  | exhausts working idle => exact ⟨flights, nofun⟩

theorem Reachable.isSound (h : Reachable config s) : s.IsSound := by
  obtain ⟨start, starts, run⟩ := h
  induction run with
  | refl =>
      refine ⟨?_, fun _ => ?_⟩
      · rw [starts.flights]
        exact List.forall_mem_nil _
      · rw [starts.gone]
        exact List.forall_mem_nil _
  | tail _ step ih => exact ih.step step

/-- Controllers that are to stop, and that are creating nothing and have lost nothing. -/
structure Controllers.IsQuiet (s : Controllers) : Prop where
  stopping : s.stopping = true
  flights : ∀ f ∈ s.flights, ¬ f.IsCreating
  gone : ∀ f ∈ s.gone, ¬ f.IsCreating

theorem Flight.not_isCreating_working (rest : Controller Run) :
    ¬ Flight.IsCreating { position := .working rest } := by
  rintro (⟨request, next, waiting⟩ | pending)
  · cases waiting
  · exact pending rfl

/-- A run that creates nothing does not begin to when the controllers are to stop. -/
theorem Flight.Goes.not_isCreating (h : f.Goes true f') (idle : ¬ f.IsCreating) :
    ¬ f'.IsCreating := by
  have nothing : f.pending = [] := by
    by_contra pending
    exact idle (.inr pending)
  cases h with
  | @asks q next pending a other agrees =>
      obtain rfl : pending = [] := nothing
      have barren : InfraMachine.born q a = none := by
        unfold InfraMachine.born
        split
        · cases other
        · rfl
      have kept : Recording.next [] q a = [] := Recording.next_nil barren
      rw [kept]
      exact not_isCreating_working _
  | refuses token refused =>
      obtain rfl := nothing
      exact not_isCreating_working _
  | @sends request next pending g start duration ended token sent =>
      -- The guard looks at the token before the request goes out.
      change g.callToCompletion start duration = .finished ended at sent
      unfold Guard.callToCompletion at sent
      rw [if_pos token] at sent
      cases sent
  | hears result => exact absurd (.inl ⟨_, _, rfl⟩) idle

/-- Controllers that are to stop stay quiet. -/
theorem Controllers.IsQuiet.step (h : s.IsQuiet) (step : Step config s s') : s'.IsQuiet := by
  obtain ⟨stopping, flights, gone⟩ := h
  cases step with
  | begins working run =>
      refine ⟨stopping, ?_, gone⟩
      rw [List.forall_mem_cons]
      exact ⟨Flight.not_isCreating_working _, flights⟩
  | goes current goes =>
      refine ⟨stopping, ?_, gone⟩
      rw [current, List.forall_mem_append, List.forall_mem_cons] at flights
      rw [List.forall_mem_append, List.forall_mem_cons]
      rw [stopping] at goes
      exact ⟨flights.1, goes.not_isCreating flights.2.1, flights.2.2⟩
  | ends current =>
      rw [current, List.forall_mem_append, List.forall_mem_cons] at flights
      obtain ⟨left, done, right⟩ := flights
      refine ⟨stopping, ?_, ?_⟩
      · exact List.forall_mem_append.mpr ⟨left, right⟩
      · exact List.forall_mem_cons.mpr ⟨done, gone⟩
  | stops => exact ⟨rfl, flights, gone⟩
  | returns working told =>
      exact ⟨stopping, List.forall_mem_nil _, List.forall_mem_append.mpr ⟨flights, gone⟩⟩
  | exhausts working idle => exact ⟨stopping, flights, gone⟩

/-- Nothing that quiet controllers may still do loses an instance. -/
theorem Controllers.IsQuiet.run (h : s.IsQuiet) (run : ReflTransGen (Step config) s s') :
    s'.IsQuiet := by
  induction run with
  | refl => exact h
  | tail _ step ih => exact ih.step step

/-- When working controllers are told to stop, a run may be gone before it has received its instance and
tried to record it if and only if a creation is under way at that moment. -/
theorem creation_lost_iff (h : Reachable config s) (working : s.returned = false) :
    (∃ s', ReflTransGen (Step config) s.stop s' ∧ ∃ f ∈ s'.gone, f.IsCreating) ↔
      ∃ f ∈ s.flights, f.IsCreating := by
  constructor
  · rintro ⟨s', run, f, member, creating⟩
    by_contra! idle
    have quiet : s.stop.IsQuiet := ⟨rfl, idle, h.isSound.gone working⟩
    exact (quiet.run run).gone f member creating
  · rintro ⟨f, member, creating⟩
    exact ⟨_, .single (.returns working rfl), f, List.mem_append_left _ member, creating⟩

/-- What the run for the machine of `InfraMachine.sampleMachine` does until it has sent the request that
creates the instance. -/
theorem sample_flight : ∃ request next,
    ReflTransGen (Flight.Goes false)
      { position := .working (InfraMachine.run (some "default") "gpu-0" {} Gzip.encode) }
      { position := .waiting request next } := by
  open InfraMachine in
  have h1 : ReflTransGen (Flight.Goes false)
      { position := .working (InfraMachine.run (some "default") "gpu-0" {} Gzip.encode) } _ :=
    .single (.asks (q := .fetch .infraMachine _ _) (.ok sampleMachine) rfl rfl)
  have h2 := h1.tail (.asks (q := .fetch .machine _ _) (.ok sampleOwner) rfl trivial)
  have h3 := h2.tail (.asks (q := .fetch .cluster _ _) (.ok sampleCluster) rfl trivial)
  have h4 := h3.tail (.asks (q := .fetch .infraCluster _ _) (.ok sampleInfraCluster) rfl trivial)
  have h5 := h4.tail (.asks (q := .startGuard _) true rfl trivial)
  have h6 := h5.tail (.asks (q := .service (.call (.readSecret .credentials _)))
    (.finished (.ok (some sampleSecret))) rfl trivial)
  have h7 := h6.tail (.asks (q := .service (.connect _)) (.ok ()) rfl trivial)
  have h8 := h7.tail (.asks (q := .service (.call (.readSecret .bootstrapData _)))
    (.finished (.ok (some sampleSecret))) rfl trivial)
  have sent : Guard.call { deadline := 60000 } .untilFinished 0 1000 = .finished 1000 := rfl
  have h9 := h8.tail (.sends (g := { deadline := 60000 }) rfl sent)
  exact ⟨_, _, h9⟩

/-- The controllers with one run and no other. -/
def alone (f : Flight) : Controllers :=
  { stopping := false, returned := false, flights := [f], gone := [] }

/-- The instance of the sample is lost when the controllers are told to stop before the provider answers. -/
theorem creation_lost_of_sample : ∃ s : Controllers, Reachable {} s ∧ s.returned = false ∧
    ∃ s', ReflTransGen (Step {}) s.stop s' ∧ ∃ f ∈ s'.gone, f.IsCreating := by
  obtain ⟨request, next, flight⟩ := sample_flight
  have begins : Step {} { stopping := false, returned := false, flights := [], gone := [] }
      (alone { position := .working (InfraMachine.run (some "default") "gpu-0" {} Gzip.encode) }) :=
    .begins rfl ⟨some "default", "gpu-0", .inl ⟨Gzip.encode, rfl⟩⟩
  have runs : ReflTransGen (Step {})
      (alone { position := .working (InfraMachine.run (some "default") "gpu-0" {} Gzip.encode) })
      (alone { position := .waiting request next }) :=
    flight.lift alone fun f f' goes => @Step.goes {} (alone f) [] [] f f' rfl goes
  have reachable : Reachable {} (alone { position := .waiting request next }) := by
    refine ⟨_, ⟨?_, rfl, rfl⟩, .head begins runs⟩
    refine ⟨nofun, ?_⟩
    rintro ⟨fault, faulty⟩
    cases faulty
  have creating : Flight.IsCreating { position := .waiting request next } := .inl ⟨request, next, rfl⟩
  exact ⟨_, reachable, rfl,
    (creation_lost_iff reachable rfl).mpr ⟨_, List.mem_singleton_self _, creating⟩⟩

end MachineProvider.Shutdown
