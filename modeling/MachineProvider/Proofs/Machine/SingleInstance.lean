import MachineProvider.Proofs.Machine.Records

/-!
# One instance for a machine

However often the controller runs for a machine, and whatever other clients do to it meanwhile, at
most one instance is created. Creating it and recording it are two steps: a version that another
client stores in between does not name the instance yet, and every version after the first write of
that run does.
-/

namespace MachineProvider.InfraMachine

/-- At most one instance is created for a machine. The version that is stored last names it, unless
the run that created it is still about to store its first version. -/
theorem single_instance_recorded {«namespace» name : String} {past : List Occurrence}
    {s : Situation} (h : History «namespace» name past s) (lands : RecordsLand past) :
    (created past).length ≤ 1 ∧
      ∀ i ∈ created past, awaitsRecord past = false →
        ∀ v, s.store.versions.head? = some v →
          v.spec.providerId = some (ProviderId.ofInstance i.id) := by
  have sound : Sound False «namespace» name past s := h.sound lands False.elim
  refine ⟨sound.tracks.single, ?_⟩
  intro i hi idle v hv
  rcases sound.tracks.held i hi v hv with stamped | ⟨awaited, -⟩
  · exact stamped
  · rw [idle] at awaited
    cases awaited

/-- A machine that has its finalizer and an owner, and no instance. -/
def sampleMachine : InfraMachine where
  metadata :=
    { name := some "gpu-0", finalizers := some [finalizer], resourceVersion := some "1"
      ownerReferences := some
        [{ apiVersion := "cluster.x-k8s.io/v1beta1", kind := "Machine", name := "gpu-0"
           uid := "5" }] }
  spec := { instanceType := "1V100.6V" }

/-- The owner of the machine. -/
def sampleOwner : ClusterApi.Machine where
  metadata := { labels := some (.ofList [(ClusterApi.clusterNameLabel, "training")]) }
  spec := { bootstrap := { dataSecretName := some "gpu-0-bootstrap" } }

/-- The cluster of the owner. -/
def sampleCluster : ClusterApi.Cluster where
  spec :=
    { infrastructureRef := some
        { apiVersion := "infrastructure.cluster.x-k8s.io/v1beta1", kind := "DataCrunchCluster"
          name := "training" } }
  status := some { infrastructureReady := true }

/-- The infrastructure cluster. -/
def sampleInfraCluster : InfraCluster where
  spec := { region := "FIN-01" }

/-- A secret with the credentials and with bootstrap data. -/
def sampleSecret : SecretData :=
  .ofList [("clientID", "id".toUTF8), ("clientSecret", "secret".toUTF8), ("value", "run".toUTF8)]

/-- The instance of the machine. -/
def sampleInstance : Instance where
  id := "i-1"
  name := "gpu-0"
  state := .pending
  instanceType := "1V100.6V"
  image := "ubuntu-22.04-cuda-12.1"
  publicIp := none
  privateIp := none
  sshKey := none
  createdAt := none

/-- The machine after another client has put a label on it. -/
def sampleLabelled : InfraMachine :=
  { sampleMachine with
    metadata := { sampleMachine.metadata with
      labels := some (.ofList [("team", "vision")]), resourceVersion := some "2" } }

/-- The machine with the label and the provider ID. -/
def sampleRecorded : InfraMachine where
  metadata := { sampleLabelled.metadata with resourceVersion := some "3" }
  spec := { sampleMachine.spec with providerId := some (ProviderId.ofInstance sampleInstance.id) }

/-- A history in which another client puts a label on the machine after its instance was created: the
first write of the record is rejected, and the second one succeeds. -/
theorem sample_history : ∃ earlier later,
    History "default" "gpu-0" (later ++ .edited sampleLabelled :: earlier)
        { store := ((Store.ofVersion sampleMachine).put sampleLabelled).put sampleRecorded
          running := none } ∧
      RecordsLand (later ++ .edited sampleLabelled :: earlier) ∧
      CleanupsResolve (later ++ .edited sampleLabelled :: earlier) ∧
      CloudHistory (later ++ .edited sampleLabelled :: earlier) [sampleInstance.id] ∧
      created earlier = [sampleInstance] ∧ created later = [] ∧
      awaitsRecord (later ++ .edited sampleLabelled :: earlier) = false := by
  have h0 : History "default" "gpu-0" [] { store := .ofVersion sampleMachine, running := none } :=
    .start rfl rfl
  have h1 := h0.began {} Gzip.encode
  have h2 := h1.exchanged (q := .fetch .infraMachine _ _) (a := .ok sampleMachine)
    none ⟨rfl, rfl, rfl, rfl⟩
  have h3 := h2.exchanged (q := .fetch .machine _ _) (a := .ok sampleOwner) none rfl
  have h4 := h3.exchanged (q := .fetch .cluster _ _) (a := .ok sampleCluster) none rfl
  have h5 := h4.exchanged (q := .fetch .infraCluster _ _) (a := .ok sampleInfraCluster)
    none rfl
  have h6 := h5.exchanged (q := .startGuard _) (a := true) none rfl
  have h7 := h6.exchanged (q := .service (.call (.readSecret .credentials _)))
    (a := .finished (.ok (some sampleSecret))) none rfl
  have h8 := h7.exchanged (q := .service (.connect _)) (a := .ok ()) none rfl
  have h9 := h8.exchanged (q := .service (.call (.readSecret .bootstrapData _)))
    (a := .finished (.ok (some sampleSecret))) none rfl
  have h10 := h9.exchanged (q := .service (.call (.createInstance _)))
    (a := .finished (.ok sampleInstance)) none rfl
  have h11 := h10.exchanged (q := .service (.publish _)) (a := ()) none rfl
  have h12 := h11.exchanged (q := .service .now) (a := default) none rfl
  have h13 := h12.exchanged (q := .service .now) (a := default) none rfl
  have labelled : Store.IsFresh (.ofVersion sampleMachine) sampleLabelled :=
    .of_not_mem rfl (by decide)
  have current : (Store.ofVersion sampleMachine).current = some sampleMachine := rfl
  have edits : Edits sampleMachine sampleLabelled := ⟨rfl, rfl, fun _ => rfl⟩
  have h14 := h13.edited current edits labelled
  have h15 := h14.exchanged (q := .replace .infraMachine _ _ _)
    (a := .error (.refused "the object has been modified" "Conflict" 409)) none
    fun _ h => absurd h (Option.some_ne_none _).symm
  have h16 := h15.exchanged (q := .fetch .infraMachine _ _) (a := .ok sampleLabelled)
    none ⟨rfl, rfl, rfl, rfl⟩
  have recorded : Store.IsFresh (.put (.ofVersion sampleMachine) sampleLabelled) sampleRecorded :=
    .of_not_mem rfl (by decide)
  have h17 := h16.exchanged (q := .replace .infraMachine _ _ _) (a := .ok sampleRecorded)
    (some sampleRecorded)
    ⟨rfl, rfl, rfl, ⟨sampleLabelled, rfl, .inr rfl⟩, recorded, fun cur hcur => by
      obtain rfl : sampleLabelled = cur := Option.some.inj hcur
      exact ⟨rfl, rfl, rfl⟩⟩
  have h18 := h17.exchanged (q := .replaceStatus .infraMachine _ _ _)
    (a := .error (.unusable "timeout")) none
    fun _ h => absurd h (Option.some_ne_none _).symm
  have h19 := h18.ended
  refine ⟨_, [.ended _, .exchanged (.replaceStatus .infraMachine _ _ _) _ _,
    .exchanged (.replace .infraMachine _ _ _) _ _, .exchanged (.fetch .infraMachine _ _) _ _,
    .exchanged (.replace .infraMachine _ _ _) _ _], h19, ?_, ?_, ?_, rfl, rfl, rfl⟩
  · exact ⟨trivial, trivial, trivial, fun _ => ⟨rfl, rfl⟩, trivial, trivial, trivial, trivial,
      trivial, trivial, trivial, trivial, trivial, trivial, trivial, trivial, trivial⟩
  · have alive : ∀ P : Progress, P.known = some sampleMachine → ¬ P.IsDeleting := by
      rintro P known ⟨m, hm, deleted⟩
      obtain rfl := Option.some.inj (known.symm.trans hm)
      cases deleted
    exact ⟨trivial, trivial, fun unborn => absurd unborn (Option.some_ne_none _), trivial, trivial,
      trivial, trivial, trivial, trivial, fun deleting => absurd deleting (alive _ rfl),
      fun deleting => absurd deleting (alive _ rfl), trivial,
      fun deleting => absurd deleting (alive _ rfl), fun deleting => absurd deleting (alive _ rfl),
      fun deleting => absurd deleting (alive _ rfl), fun _ deleted => absurd deleted (by decide),
      trivial⟩
  · have nothing : ([] : List String) ⊆ [] := List.Subset.refl _
    have same : [sampleInstance.id] ⊆ [sampleInstance.id] := List.Subset.refl _
    exact .ended (.exchanged (.exchanged (.exchanged (.exchanged (.edited (.exchanged (.exchanged
      (.exchanged (.exchanged (.exchanged (.exchanged (.exchanged (.exchanged (.exchanged
      (.exchanged (.exchanged (.exchanged (.began (.start []) nothing) nothing) nothing) nothing)
      nothing) nothing) nothing) nothing) nothing) ⟨by decide, same⟩) same) same) same) same) same)
      same) same) same) same

theorem single_instance_recorded_of_sample : ∃ past s,
    History "default" "gpu-0" past s ∧ RecordsLand past ∧ created past = [sampleInstance] ∧
      (created past).length ≤ 1 ∧ awaitsRecord past = false ∧
      s.store.versions.head? = some sampleRecorded ∧
      sampleRecorded.spec.providerId = some (ProviderId.ofInstance "i-1") := by
  obtain ⟨earlier, later, history, lands, -, -, first, rest, idle⟩ := sample_history
  obtain ⟨single, recorded⟩ := single_instance_recorded history lands
  have new : created (later ++ .edited sampleLabelled :: earlier) = [sampleInstance] := by
    rw [created_append, rest]
    exact first
  have member : sampleInstance ∈ created (later ++ .edited sampleLabelled :: earlier) := by
    rw [new]
    exact List.mem_singleton_self _
  exact ⟨_, _, history, lands, new, single, idle, rfl, recorded _ member idle _ rfl⟩

/-- A version that another client stores after the instance was created, and before it is recorded,
does not name the instance. -/
theorem version_stored_without_record : ∃ earlier later v s i,
    History "default" "gpu-0" (later ++ .edited v :: earlier) s ∧
      RecordsLand (later ++ .edited v :: earlier) ∧ i ∈ created earlier ∧
      v.spec.providerId ≠ some (ProviderId.ofInstance i.id) := by
  obtain ⟨earlier, later, history, lands, -, -, first, -, -⟩ := sample_history
  refine ⟨earlier, later, sampleLabelled, _, sampleInstance, history, lands, ?_, ?_⟩
  · rw [first]
    exact List.mem_singleton_self _
  · exact (Option.some_ne_none _).symm

end MachineProvider.InfraMachine
