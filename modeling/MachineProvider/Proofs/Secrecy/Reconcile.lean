import MachineProvider.Cluster.Reconcile
import MachineProvider.Proofs.Dictionary
import MachineProvider.Proofs.Machine.Advance
import MachineProvider.Proofs.Secrecy.Basic

/-!
# What becomes of the client secret

A reconcile hands the client secret to the connector and to nobody else. What it asks besides, the
object that it gives back with all its messages, and its result are the same for two client secrets
when they are answered alike (`reconciles_conceal`). This is shown for each part of a reconcile and
then for the whole, since what is put together from discreet parts is discreet.
-/

namespace MachineProvider

open SecretPair
open Credentials (clientSecretKey)

variable {P : SecretPair}

/-! ## Machines -/

namespace InfraMachine

variable (m : InfraMachine) (scope : MachineScope) (config : Config) (gzip : Gzip.Compressor)

theorem discreet_markNotReady (reason : String) (severity : Severity) (message : String) :
    P.Discreet (m.markNotReady reason severity message) :=
  discreet_now.bind fun _ => discreet_done _

theorem discreet_recordFailure (message : String) : P.Discreet (m.recordFailure message) :=
  discreet_now.bind fun _ => discreet_done _

theorem discreet_markRunning (found : Instance) : P.Discreet (m.markRunning found) :=
  discreet_now.bind fun _ => discreet_done _

theorem discreet_findInstance : P.Discreet m.findInstance := by
  unfold findInstance
  split
  · exact discreet_done _
  · split
    · exact discreet_done _
    · refine (discreet_call fun _ => rfl).bind fun found => ?_
      cases found <;> exact discreet_done _

theorem discreet_launch (defaultImage : String) :
    P.Discreet (m.launch scope defaultImage gzip) := by
  unfold launch
  split
  · exact discreet_done _
  · refine (discreet_bootstrapData ..).bind fun data => ?_
    cases data with
    | error e => exact discreet_done _
    | ok userData => exact discreet_call fun _ => rfl

theorem discreet_create : P.Discreet (m.create scope config gzip) := by
  refine (m.discreet_launch scope gzip _).bind fun created => ?_
  cases created with
  | error e => exact (m.discreet_markNotReady ..).bind fun _ => discreet_done _
  | ok created =>
    refine (discreet_publish _).bind fun _ => ?_
    exact (discreet_markNotReady ..).bind fun _ => discreet_done _

theorem discreet_project (found : Instance) : P.Discreet (m.project found config) := by
  unfold project
  dsimp only
  split
  · exact (discreet_markRunning ..).bind fun _ => discreet_done _
  · exact (discreet_markNotReady ..).bind fun _ => discreet_done _
  · refine (discreet_call fun _ => rfl).bind fun started => ?_
    cases started <;> exact discreet_done _
  · exact (discreet_recordFailure ..).bind fun _ => discreet_done _
  · exact (discreet_markNotReady ..).bind fun _ => discreet_done _

theorem discreet_converge : P.Discreet (m.converge scope config gzip) := by
  refine m.discreet_findInstance.bind fun found => ?_
  rcases found with e | _ | found
  · exact discreet_done _
  · dsimp only
    split
    · exact (discreet_recordFailure ..).bind fun _ => discreet_done _
    · refine (m.discreet_create scope config gzip).bind fun ⟨m, created⟩ => ?_
      cases created with
      | error e => exact discreet_done _
      | ok created => exact discreet_project ..
  · exact discreet_project ..

theorem discreet_reconcile : P.Discreet (m.reconcile scope config gzip) := by
  unfold reconcile
  split
  · exact discreet_done _
  · split
    · exact discreet_done _
    · split
      · exact (discreet_markNotReady ..).bind fun _ => discreet_done _
      · split
        · exact (discreet_markNotReady ..).bind fun _ => discreet_done _
        · refine (discreet_connect ..).bind fun client => ?_
          cases client with
          | error e => exact (discreet_markNotReady ..).bind fun _ => discreet_done _
          | ok _ => exact m.discreet_converge scope config gzip

theorem discreet_tearDown : P.Discreet (m.tearDown config) := by
  refine m.discreet_findInstance.bind fun found => ?_
  split
  · exact discreet_done _
  · exact discreet_done _
  · exact discreet_done _
  · refine (discreet_call fun _ => rfl).bind fun deleted => ?_
    cases deleted with
    | ok _ => exact (discreet_publish _).bind fun _ => discreet_done _
    | error e =>
      dsimp only
      split
      · exact (discreet_publish _).bind fun _ => discreet_done _
      · exact discreet_done _

theorem discreet_cleanUp (credentials : Option SecretLocation) :
    P.Discreet (m.cleanUp credentials config) := by
  unfold cleanUp
  split
  · exact discreet_done _
  · split
    · exact discreet_done _
    · refine (discreet_connect ..).bind fun client => ?_
      cases client with
      | error e => exact discreet_done _
      | ok _ => exact m.discreet_tearDown config

end InfraMachine

/-! ## Clusters -/

namespace InfraCluster

variable (c : InfraCluster)

theorem discreet_markReady : P.Discreet c.markReady :=
  discreet_now.bind fun _ => discreet_now.bind fun _ => discreet_done _

theorem discreet_reconcile (scope : ClusterScope) : P.Discreet (c.reconcile scope) := by
  unfold reconcile
  split
  · exact discreet_done _
  · refine (discreet_connect ..).bind fun client => ?_
    cases client with
    | error e => exact discreet_now.bind fun _ => discreet_done _
    | ok _ => exact (discreet_markReady _).bind fun _ => discreet_done _

theorem discreet_deleteLoadBalancer (location : SecretLocation) :
    P.Discreet (c.deleteLoadBalancer location) := by
  refine (discreet_connect ..).bind fun client => ?_
  cases client with
  | error e => exact discreet_done _
  | ok _ =>
    dsimp only
    split
    · exact discreet_done _
    · exact (discreet_call fun _ => rfl).bind fun _ => discreet_done _

theorem discreet_cleanUp (location : SecretLocation) : P.Discreet (c.cleanUp location) := by
  unfold cleanUp
  split
  · exact discreet_done _
  · exact (c.discreet_deleteLoadBalancer location).bind fun _ => discreet_done _

end InfraCluster

/-! ## Runs -/

/-- The text that describes credentials is the same for both client secrets. -/
theorem SecretPair.AlikeAttempts.describe {attempt attempt' : Except Error Credentials}
    (h : AlikeAttempts P attempt attempt') :
    attempt.map Credentials.describe = attempt'.map Credentials.describe := by
  cases h with
  | failed e => rfl
  | made alike => cases alike <;> rfl

/-- Whether a service has the same result in two scenes, asks the same of the cloud and publishes
the same events. -/
def SameConduct {κ κ' α : Type} (W : Surroundings κ) (W' : Surroundings κ') (g : Guard)
    (s : Scene κ) (s' : Scene κ') (p : Service α) : Prop :=
  let ran := p.run (W.answer (.under g none)) s
  let ran' := p.run (W'.answer (.under g none)) s'
  ran.1 = ran'.1 ∧ ran.2.deeds = ran'.2.deeds

theorem SecretPair.Discreet.sameConduct {κ κ' α : Type} {R : κ → κ' → Prop} {W : Surroundings κ}
    {W' : Surroundings κ'} {s : Scene κ} {s' : Scene κ'} {p : Service α} (h : P.Discreet p)
    (like : P.Resembles R W W') (scenes : P.AlikeScenes R s s') (g : Guard) :
    SameConduct W W' g s s' p := by
  obtain ⟨results, after⟩ := Matches.run (c := .under g none) h like scenes
  exact ⟨results, after.deeds⟩

/-- Two reconciles or two cleanups of a machine or a cluster that differ in nothing but the client
secret cannot be told apart: not by the object, the action or the failure that they end with, not by
what they ask of the cloud, and not by their events. Neither can the texts that describe the
credentials. -/
theorem reconciles_conceal {κ κ' : Type} {R : κ → κ' → Prop} {W : Surroundings κ}
    {W' : Surroundings κ'} (like : P.Resembles R W W') {world : κ} {world' : κ'}
    (worlds : R world world') (g : Guard) (instant : Nat) :
    let s : Scene κ := { world, instant, log := [] }
    let s' : Scene κ' := { world := world', instant, log := [] }
    (∀ (m : InfraMachine) scope config gzip,
        SameConduct W W' g s s' (m.reconcile scope config gzip)) ∧
      (∀ (m : InfraMachine) credentials config,
        SameConduct W W' g s s' (m.cleanUp credentials config)) ∧
      (∀ (c : InfraCluster) scope, SameConduct W W' g s s' (c.reconcile scope)) ∧
      (∀ (c : InfraCluster) credentials, SameConduct W W' g s s' (c.cleanUp credentials)) ∧
      ∀ location,
        ((Service.credentialsAt location).run (W.answer (.under g none)) s).1.map
            Credentials.describe =
          ((Service.credentialsAt location).run (W'.answer (.under g none)) s').1.map
            Credentials.describe := by
  intro s s'
  have scenes : P.AlikeScenes R s s' := ⟨worlds, rfl, .nil⟩
  refine ⟨fun m scope config gzip => ?_, fun m credentials config => ?_, fun c scope => ?_,
    fun c credentials => ?_, fun location => ?_⟩
  · exact (m.discreet_reconcile scope config gzip).sameConduct like scenes g
  · exact (m.discreet_cleanUp config credentials).sameConduct like scenes g
  · exact (c.discreet_reconcile scope).sameConduct like scenes g
  · exact (c.discreet_cleanUp credentials).sameConduct like scenes g
  · exact ((P.matches_credentialsAt location).run like scenes).1.describe

/-- A client secret and another one with a line break after it. -/
def samplePair : SecretPair where
  one := "secret"
  other := "another\n"
  one_filled := by decide
  other_filled := by decide

/-- A cloud that knows both client secrets. Its world is the data that all secrets have. -/
def sharedCloud : Surroundings SecretData where
  duration _ _ _ := 0
  work
    | .readSecret .., _, data => (.ok (some data), data)
    | r, instant, data => ((InfraMachine.sampleCloud.work r instant .running).1, data)
  leave _ _ data := data
  connect c _ _ :=
    if c.clientSecret = "secret" ∨ c.clientSecret = "another" then .ok ()
    else .error (.authentication "connect" 401 "unknown client")
  clock _ _ := default

theorem resembles_sharedCloud :
    samplePair.Resembles samplePair.AlikeData sharedCloud sharedCloud where
  duration _ _ _ := rfl
  results {data data'} alike r instant := by
    cases r with
    | readSecret purpose location => exact .secret alike
    | _ => exact .same _
  worked {data data'} alike r instant := by
    cases r <;> exact alike
  left alike _ _ := alike
  connect {data data'} _ {c c'} alike instant := by
    cases alike with
    | same => rfl
    | swapped one =>
      have own : c.clientSecret = "secret" := one.trans (by decide +kernel)
      have others : Text.trim samplePair.other = "another" := by decide +kernel
      simp [sharedCloud, own, others]
  clock _ _ := rfl

/-- The sample machine gets its instance with either client secret. -/
theorem reconciles_conceal_of_sample :
    let data := InfraMachine.sampleSecret
    let data' := data.insert clientSecretKey samplePair.other.toUTF8
    let turn := InfraMachine.sampleTurn .running
    let reconcile := InfraMachine.sampleMachine.reconcile turn.scope turn.config turn.gzip
    let ran := reconcile.run (sharedCloud.answer (.under turn.guard none)) ⟨data, 0, []⟩
    let ran' := reconcile.run (sharedCloud.answer (.under turn.guard none)) ⟨data', 0, []⟩
    samplePair.AlikeData data data' ∧ ran.1 = ran'.1 ∧ ran.2.deeds = ran'.2.deeds ∧
      ran.1.1.spec.providerId = some "datacrunch://i-1" := by
  intro data data' turn reconcile ran ran'
  have alike : samplePair.AlikeData data data' := by
    refine .swapped rfl (Dictionary.get?_insert ..) fun key differ => ?_
    exact (Dictionary.get?_insert_of_ne _ _ _ differ).symm
  obtain ⟨same, -⟩ := reconciles_conceal resembles_sharedCloud alike turn.guard 0
  obtain ⟨results, deeds⟩ := same InfraMachine.sampleMachine turn.scope turn.config turn.gzip
  exact ⟨alike, results, deeds, by decide +kernel⟩

end MachineProvider
