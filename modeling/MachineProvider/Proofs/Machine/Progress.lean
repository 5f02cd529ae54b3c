import MachineProvider.Machine.Run
import MachineProvider.Proofs.Discipline

/-!
# What a run of the machine controller knows and may do

A run learns from its answers: which version of the machine is stored, which instance it created,
which instances are gone. `Progress` keeps these facts, and `Progress.Prepared` says which objects
may be written with them: the provider ID stays what it was, unless it was open and an instance has
been created, and the finalizer goes only from a deleted machine. `discipline` puts the rules
together that every run follows, whatever it is answered. Where the way to the cloud is open to every
cleanup (`reaches`), there is one more rule: the finalizer goes only when the instance was looked for
in vain.
-/

namespace MachineProvider.InfraMachine

open Procedure

/-- What a run has learned from its answers. -/
structure Progress where
  /-- The version of the machine that was read or written last. -/
  known : Option InfraMachine := none
  /-- Whether a version with a provider ID has been known. -/
  recorded : Bool := false
  /-- The instance that was created. -/
  created : Option Instance := none
  /-- Whether a write with a new provider ID has failed. -/
  refused : Bool := false
  /-- The IDs that were asked for, each with the ID of the instance that was found. -/
  found : List (String × String) := []
  /-- The IDs of the instances that the cloud deleted or does not know. -/
  gone : List String := []

namespace Progress

/-- A version of the machine has become known. -/
def learn (s : Progress) (m : InfraMachine) : Progress :=
  { s with known := some m, recorded := s.recorded || m.spec.providerId.isSome }

/-- Whether an object has a provider ID that the known version lacks. -/
def isFresh (s : Progress) (o : InfraMachine) : Bool :=
  o.spec.providerId.isSome && s.known.any (·.spec.providerId.isNone)

/-- What is known after an answer. -/
def next (s : Progress) : (q : Controller.Question) → Controller.Answer q → Progress
  | .fetch .infraMachine _ _, .ok m => s.learn m
  | .replace .infraMachine _ _ _, .ok m => s.learn m
  | .replace .infraMachine _ _ o, .error _ =>
    { s with known := none, refused := s.refused || s.isFresh o }
  | .service (.call (.createInstance _)), .finished (.ok i) => { s with created := some i }
  | .service (.call (.getInstance id)), .finished (.ok i) =>
    { s with found := (id, i.id) :: s.found }
  | .service (.call (.getInstance id)), .finished (.error e) =>
    if e.isNotFound then { s with gone := id :: s.gone } else s
  | .service (.call (.deleteInstance id)), .finished (.ok ()) => { s with gone := id :: s.gone }
  | .service (.call (.deleteInstance id)), .finished (.error e) =>
    if e.isNotFound then { s with gone := id :: s.gone } else s
  | _, _ => s

/-- Whether the instance with an ID, or the one that was found under it, is gone. -/
def IsGone (s : Progress) (id : String) : Prop :=
  id ∈ s.gone ∨ ∃ other ∈ s.gone, (id, other) ∈ s.found

/-- A new instance is recorded. -/
def Settled (s : Progress) : Prop :=
  s.created.isSome = true → s.recorded = true

/-- The known version of the machine is deleted. -/
def IsDeleting (s : Progress) : Prop :=
  ∃ m, s.known = some m ∧ m.metadata.isDeleted = true

section Rules

variable (reaches : Prop) («namespace» : String)

/-- Whether a version of the machine may lose its finalizer: it is deleted, and when the way to the
cloud is open, the instance that it names is gone. -/
structure MayRelease (s : Progress) (m : InfraMachine) : Prop where
  deleted : m.metadata.isDeleted = true
  unborn : s.created = none
  gone : reaches → ∀ raw, m.spec.providerId = some raw →
    ∀ id, ProviderId.parse? raw = some id → s.IsGone id

/-- The provider ID that is to follow on a version of the machine. -/
def providerIdAfter (s : Progress) (m : InfraMachine) : Option String :=
  match s.created with
  | none => m.spec.providerId
  | some i => some (ProviderId.ofInstance i.id)

/-- Whether an object may be written over a version of the machine. -/
structure Prepared (s : Progress) (m o : InfraMachine) : Prop where
  name : o.metadata.name = m.metadata.name
  version : o.metadata.resourceVersion = m.metadata.resourceVersion
  providerId : o.spec.providerId = s.providerIdAfter m
  finalizer : m.hasFinalizer finalizer → o.hasFinalizer finalizer ∨ s.MayRelease reaches m

/-- Whether an instance may be created: none was, and the known version has its finalizer, names no
instance and is not deleted. -/
def MayCreate (s : Progress) : Prop :=
  s.created = none ∧ ∃ m, s.known = some m ∧ m.spec.providerId = none ∧
    m.hasFinalizer finalizer ∧ m.metadata.isDeleted = false

/-- What a run may ask in a namespace. It writes only over the version that it knows, and no status
before a new instance is recorded. -/
def May (s : Progress) : Controller.Question → Prop
  | .service (.call (.createInstance _)) => s.MayCreate
  | .replace .infraMachine n name o =>
    n = «namespace» ∧ ∃ m, s.known = some m ∧ m.metadata.name = some name ∧ s.Prepared reaches m o
  | .replaceStatus .infraMachine n name o =>
    n = «namespace» ∧ s.Settled ∧ ∃ m, s.known = some m ∧ m.metadata.name = some name ∧
      o.metadata.resourceVersion = m.metadata.resourceVersion
  | .replace .. => False
  | .replaceStatus .. => False
  | _ => True

/-- A write with a new provider ID succeeds, or is rejected because the machine has changed; then
the machine can be read again and the second write succeeds. -/
def Lands (s : Progress) : (q : Controller.Question) → Controller.Answer q → Prop
  | .fetch .infraMachine _ _, .error _ => s.refused = false
  | .replace .infraMachine _ _ o, .error e =>
    s.isFresh o = true → e.hasCode 409 = true ∧ s.refused = false
  | _, _ => True

/-- What the API server stores and gives back is the machine that was asked for, and a write stores
the provider ID that was sent. -/
def Agrees : (q : Controller.Question) → Controller.Answer q → Prop
  | .fetch .infraMachine _ name, .ok m => m.metadata.name = some name
  | .replace .infraMachine _ _ o, .ok m =>
    m.metadata.name = o.metadata.name ∧ m.spec.providerId = o.spec.providerId
  | _, _ => True

/-- A read that did not fail found an object that leads on. -/
def Leads {α : Type} (onward : α → Bool) (result : Except Error (Option α)) : Prop :=
  ∀ found, result = .ok found → found.any onward = true

/-- The owners of a deleted machine are found, and a client for the cloud is set up with the
credentials that they name. -/
def Resolves (s : Progress) : (q : Controller.Question) → Controller.Answer q → Prop
  | .fetch .infraMachine _ _, .ok m =>
    s.created = none → m.metadata.isDeleted = true →
      (ClusterApi.ownerName? m.metadata ClusterApi.Machine.type.kind).isSome = true
  | .fetch .machine _ _, answer =>
    s.IsDeleting → Leads (fun owner : ClusterApi.Machine => owner.clusterName?.isSome)
      (ApiAnswer.present answer)
  | .fetch .cluster _ _, answer =>
    s.IsDeleting → Leads (fun owner : ClusterApi.Cluster =>
      (owner.infrastructureName? InfraCluster.type.kind).isSome) (ApiAnswer.present answer)
  | .fetch .infraCluster _ _, answer =>
    s.IsDeleting → Leads (fun _ => true) (ApiAnswer.present answer)
  | .service (.call (.readSecret .credentials location)), outcome =>
    s.IsDeleting → ∃ data credentials, outcome = .finished (.ok (some data)) ∧
      Credentials.ofSecret data location = .ok credentials
  | .service (.connect _), answer => s.IsDeleting → answer = .ok ()
  | _, _ => True

/-- The rules for the runs in a namespace. -/
def discipline : Discipline Controller.Question Controller.Answer Progress where
  next := next
  may := May reaches «namespace»
  expects s q a := s.Lands q a ∧ Agrees q a ∧ (reaches → s.Resolves q a)

end Rules

end Progress

/-- Looking for the owners of a machine leaves a record as it is when questions for other objects do. -/
theorem keeps_owners {σ : Type} {d : Discipline Controller.Question Controller.Answer σ} {s : σ}
    {m : InfraMachine} {here : String}
    (may : ∀ kind name, kind ≠ .infraMachine → d.may s (.fetch kind here name))
    (same : ∀ kind name a, kind ≠ .infraMachine → d.next s (.fetch kind here name) a = s) :
    (m.owners here).Keeps d s := by
  have other (kind : Kind) (foreign : kind ≠ .infraMachine) (name : String) :
      (Controller.fetchOptional kind here name).Keeps d s :=
    Controller.keeps_fetchOptional (may kind name foreign) fun a => same kind name a foreign
  unfold owners
  split
  · exact keeps_done _ _
  refine (other .machine (by decide) _).bind ?_
  rintro (e | owner | owner)
  · exact keeps_done _ _
  · exact keeps_done _ _
  dsimp only
  unfold ownersOfMachine
  split
  · exact keeps_done _ _
  refine (other .cluster (by decide) _).bind ?_
  rintro (e | cluster | cluster)
  · exact keeps_done _ _
  · exact keeps_done _ _
  dsimp only
  unfold ownersFrom
  split
  · exact keeps_done _ _
  refine (other .infraCluster (by decide) _).bind ?_
  rintro (e | infraCluster | infraCluster) <;> exact keeps_done _ _

end MachineProvider.InfraMachine
