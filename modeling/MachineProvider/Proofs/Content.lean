import MachineProvider.Machine.Run
import MachineProvider.Proofs.Discipline
import Mathlib.Data.List.Pairwise

/-!
# What the API server holds

A `Content` is what the API server holds at one time: objects of each kind, no two of a kind with
the same name in a namespace. A run that only hears of a content what is in it (`Content.reading`)
learns from its reads exactly the owners that are there (`follows_owners`). `Link` says which of
them is the first one that is missing.
-/

namespace MachineProvider

/-- What the API server makes sure of before it stores an object: the object has a namespace and a
name, and its owners have names. -/
structure Metadata.IsStorable (m : Metadata) : Prop where
  placed : m.namespace.isSome = true
  named : ∃ name, m.name = some name ∧ name ≠ ""
  owned : ∀ owner ∈ m.ownerReferences.getD [], owner.name ≠ ""

/-- The owner that is looked for has a name. -/
theorem Metadata.IsStorable.ne_of_ownerName? {m : Metadata} (h : m.IsStorable) {kind name : String}
    (owned : ClusterApi.ownerName? m kind = some name) : name ≠ "" := by
  obtain ⟨owner, found, rfl⟩ := Option.map_eq_some_iff.mp owned
  exact h.owned owner (List.mem_of_find?_eq_some found)

/-- A reference that names an object names it by a name that is not empty. -/
theorem ClusterApi.Reference.ne_of_nameOf? {reference : Option Reference} {kind name : String}
    (named : nameOf? reference kind = some name) : name ≠ "" := by
  unfold nameOf? at named
  split at named
  next r =>
    split at named
    next filled =>
      cases named
      simp only [Bool.and_eq_true, Bool.not_eq_true', String.isEmpty_eq_false_iff] at filled
      exact filled.2
    · cases named
  · cases named

theorem ClusterApi.Machine.ne_of_clusterName? (m : Machine) {name : String}
    (named : m.clusterName? = some name) : name ≠ "" := by
  unfold clusterName? at named
  dsimp only at named
  split at named
  · cases named
  next filled =>
    cases named
    simpa using filled

/-- The objects that the API server holds. -/
structure Content where
  objects : (kind : Kind) → List kind.Object
  storable : ∀ kind, ∀ o ∈ objects kind, o.metadata.IsStorable
  distinct : ∀ kind, (objects kind).Pairwise fun a b =>
    a.metadata.namespace = b.metadata.namespace → a.metadata.name ≠ b.metadata.name

/-- A link of the chain that leads from an infrastructure machine to the infrastructure of its
cluster. -/
inductive Link where
  | ownerReference
  | machine
  | clusterName
  | cluster
  | infrastructureReference
  | infraCluster
  deriving DecidableEq, Repr

namespace Content

open Controller Procedure

variable (content : Content)

/-- The object of a kind with a name in a namespace. -/
def get? (kind : Kind) («namespace» name : String) : Option kind.Object :=
  (content.objects kind).find? fun o =>
    o.metadata.namespace = some «namespace» && o.metadata.name = some name

/-- The metadata of all infrastructure machines. -/
def machines : List Metadata :=
  (content.objects .infraMachine).map (·.metadata)

/-- A content with at most one object of each kind. -/
def ofOptions (object : (kind : Kind) → Option kind.Object)
    (storable : ∀ kind, ∀ o ∈ object kind, o.metadata.IsStorable) : Content where
  objects kind := (object kind).toList
  storable kind o member := storable kind o (Option.mem_toList.mp member)
  distinct kind := by cases object kind <;> simp

section Lookup

variable {content} {kind : Kind} {«namespace» name : String} {o o' : kind.Object}

theorem mem_of_get? (h : content.get? kind «namespace» name = some o) : o ∈ content.objects kind :=
  List.mem_of_find?_eq_some h

theorem namespace_of_get? (h : content.get? kind «namespace» name = some o) :
    o.metadata.namespace = some «namespace» := by
  have found := List.find?_some h
  simp only [Bool.and_eq_true, decide_eq_true_eq] at found
  exact found.1

theorem name_of_get? (h : content.get? kind «namespace» name = some o) :
    o.metadata.name = some name := by
  have found := List.find?_some h
  simp only [Bool.and_eq_true, decide_eq_true_eq] at found
  exact found.2

/-- An object is stored under a name that is not empty. -/
theorem ne_of_get? (h : content.get? kind «namespace» name = some o) : name ≠ "" := by
  obtain ⟨own, named, nonempty⟩ := (content.storable kind o (mem_of_get? h)).named
  obtain rfl : own = name := Option.some.inj (named.symm.trans (name_of_get? h))
  exact nonempty

/-- Two objects of a kind with the same name in a namespace are the same. -/
theorem eq_of_key (h : o ∈ content.objects kind) (h' : o' ∈ content.objects kind)
    (placed : o.metadata.namespace = o'.metadata.namespace)
    (named : o.metadata.name = o'.metadata.name) : o = o' := by
  have apart := content.distinct kind
  have symmetric : Std.Symm fun a b : kind.Object =>
      a.metadata.namespace = b.metadata.namespace → a.metadata.name ≠ b.metadata.name :=
    ⟨fun _ _ apart placed same => apart placed.symm same.symm⟩
  by_cases same : o = o'
  · exact same
  · exact absurd named (apart.forall h h' same placed)

end Lookup

section Owners

variable (m : InfraMachine) (here : String)

/-- The machine that owns an infrastructure machine. -/
def machineOf : Except Link ClusterApi.Machine :=
  match ClusterApi.ownerName? m.metadata ClusterApi.Machine.type.kind with
  | none => .error .ownerReference
  | some name =>
    match content.get? .machine here name with
    | none => .error .machine
    | some machine => .ok machine

/-- The cluster of a machine. -/
def clusterOf (machine : ClusterApi.Machine) : Except Link ClusterApi.Cluster :=
  match machine.clusterName? with
  | none => .error .clusterName
  | some name =>
    match content.get? .cluster here name with
    | none => .error .cluster
    | some cluster => .ok cluster

/-- The infrastructure of a cluster. -/
def infraClusterOf (cluster : ClusterApi.Cluster) : Except Link InfraCluster :=
  match cluster.infrastructureName? InfraCluster.type.kind with
  | none => .error .infrastructureReference
  | some name =>
    match content.get? .infraCluster here name with
    | none => .error .infraCluster
    | some infraCluster => .ok infraCluster

/-- The cluster that an infrastructure machine belongs to. -/
def clusterBehind : Except Link ClusterApi.Cluster := do
  let machine ← content.machineOf m here
  content.clusterOf here machine

/-- All owners, once the machine and its cluster are known. -/
def ownersFrom (machine : ClusterApi.Machine) (cluster : ClusterApi.Cluster) :
    Except Link Owners := do
  let infraCluster ← content.infraClusterOf here cluster
  return { machine, cluster, infraCluster }

/-- All owners, once the machine is known. -/
def ownersOfMachine (machine : ClusterApi.Machine) : Except Link Owners := do
  let cluster ← content.clusterOf here machine
  content.ownersFrom here machine cluster

/-- All owners of an infrastructure machine. -/
def owners : Except Link Owners := do
  let machine ← content.machineOf m here
  content.ownersOfMachine here machine

variable {content m here}

/-- What a step gives that is followed by another one, when both succeed. -/
theorem of_bind_eq_ok {α β : Type} {x : Except Link α} {f : α → Except Link β} {b : β}
    (h : (x >>= f) = .ok b) : ∃ a, x = .ok a ∧ f a = .ok b := by
  cases x with
  | error link => cases h
  | ok a => exact ⟨a, rfl, h⟩

/-- The owners are known when each link of the chain is there. -/
theorem owners_eq_ok {o : Owners} (h : content.owners m here = .ok o) :
    content.machineOf m here = .ok o.machine ∧ content.clusterOf here o.machine = .ok o.cluster ∧
      content.infraClusterOf here o.cluster = .ok o.infraCluster := by
  obtain ⟨machine, owning, h⟩ := of_bind_eq_ok h
  obtain ⟨cluster, grouping, h⟩ := of_bind_eq_ok h
  obtain ⟨infraCluster, serving, h⟩ := of_bind_eq_ok h
  cases h
  exact ⟨owning, grouping, serving⟩

/-- The cluster among the owners is the one that the machine belongs to. -/
theorem clusterBehind_of_owners {o : Owners} (h : content.owners m here = .ok o) :
    content.clusterBehind m here = .ok o.cluster := by
  obtain ⟨owning, grouping, -⟩ := owners_eq_ok h
  rw [clusterBehind, owning]
  exact grouping

end Owners

section Reading

/-- Whether an answer is what a content holds, and whether the guard can be started. Writes of a
status succeed. -/
def Serves (started : Bool) : (q : Question) → Answer q → Prop
  | .fetch kind «namespace» name, a =>
    ApiAnswer.present a = .ok (content.get? kind «namespace» name)
  | .startGuard _, a => a = started
  | .replaceStatus .., a => a = .ok ()
  | _, _ => True

/-- Whether a question changes nothing, here or outside. -/
def IsHarmless : Question → Prop
  | .fetch .. => True
  | .startGuard _ => True
  | .forgetFailures _ => True
  | _ => False

/-- The discipline of a run that hears what is in a content, and besides asking harmless questions
does what it may. -/
def reading (started : Bool) (may : Question → Prop) : Discipline Question Answer Unit where
  next _ _ _ := ()
  may _ q := IsHarmless q ∨ may q
  expects _ := content.Serves started

variable {content} {started : Bool} {may : Question → Prop} {here : String}

/-- There is an answer for each object that may be there. -/
theorem exists_present {α : Type} (found : Option α) :
    ∃ answer : Except ApiFailure α, ApiAnswer.present answer = .ok found := by
  cases found with
  | none => exact ⟨.error (.refused "" "NotFound" 404), rfl⟩
  | some o => exact ⟨.ok o, rfl⟩

/-- A read of an object gives the one that is there. -/
theorem follows_fetchOptional (kind : Kind) {name : String} (nonempty : name ≠ "")
    (post : Except Error (Option kind.Object) → Unit → Prop) :
    (fetchOptional kind here name).Follows (content.reading started may) post () ↔
      post (.ok (content.get? kind here name)) () := by
  have filled : name.isEmpty = false := by simpa using nonempty
  unfold fetchOptional
  rw [filled]
  constructor
  · rintro ⟨-, next⟩
    obtain ⟨answer, heard⟩ := exists_present (content.get? kind here name)
    have result : post (ApiAnswer.present answer) () := next answer heard
    rwa [heard] at result
  · intro result
    refine ⟨.inl trivial, ?_⟩
    intro answer (heard : ApiAnswer.present answer = _)
    rwa [← heard] at result

theorem follows_startGuard {α : Type} {timeout : Delay} {next : Bool → Controller α}
    {post : α → Unit → Prop} :
    (ask (.startGuard timeout) next).Follows (content.reading started may) post () ↔
      (next started).Follows (content.reading started may) post () :=
  ⟨fun h => h.2 started rfl, fun h => ⟨.inl trivial, fun _ eq => eq ▸ h⟩⟩

theorem follows_ownersFrom (machine : ClusterApi.Machine) (cluster : ClusterApi.Cluster)
    (post : Except Error (Option Owners) → Unit → Prop) :
    (InfraMachine.ownersFrom machine cluster here).Follows (content.reading started may) post () ↔
      post (.ok (content.ownersFrom here machine cluster).toOption) () := by
  unfold InfraMachine.ownersFrom Content.ownersFrom infraClusterOf
  cases named : cluster.infrastructureName? InfraCluster.type.kind with
  | none => rfl
  | some name =>
      have nonempty := ClusterApi.Reference.ne_of_nameOf? named
      refine (follows_bind ..).trans ((follows_fetchOptional _ nonempty _).trans ?_)
      dsimp only
      cases content.get? .infraCluster here name <;> rfl

theorem follows_ownersOfMachine (machine : ClusterApi.Machine)
    (post : Except Error (Option Owners) → Unit → Prop) :
    (InfraMachine.ownersOfMachine machine here).Follows (content.reading started may) post () ↔
      post (.ok (content.ownersOfMachine here machine).toOption) () := by
  unfold InfraMachine.ownersOfMachine Content.ownersOfMachine clusterOf
  cases named : machine.clusterName? with
  | none => rfl
  | some name =>
      have nonempty := machine.ne_of_clusterName? named
      refine (follows_bind ..).trans ((follows_fetchOptional _ nonempty _).trans ?_)
      dsimp only
      cases content.get? .cluster here name with
      | none => rfl
      | some cluster => exact follows_ownersFrom machine cluster post

/-- The owners that a run finds for a machine are those that are there. -/
theorem follows_owners {m : InfraMachine} (storable : m.metadata.IsStorable)
    (post : Except Error (Option Owners) → Unit → Prop) :
    (m.owners here).Follows (content.reading started may) post () ↔
      post (.ok (content.owners m here).toOption) () := by
  unfold InfraMachine.owners Content.owners machineOf
  cases owned : ClusterApi.ownerName? m.metadata ClusterApi.Machine.type.kind with
  | none => rfl
  | some name =>
      have nonempty := storable.ne_of_ownerName? owned
      refine (follows_bind ..).trans ((follows_fetchOptional _ nonempty _).trans ?_)
      dsimp only
      cases content.get? .machine here name with
      | none => rfl
      | some machine => exact follows_ownersOfMachine machine post

/-- A run for a machine goes on with the owners that are there. -/
theorem follows_run {m : InfraMachine} {name : String} {config : Config} {gzip : Gzip.Compressor}
    {post : Run → Unit → Prop}
    (stored : content.get? .infraMachine here name = some m) :
    (InfraMachine.run (some here) name config gzip).Follows (content.reading started may) post () ↔
      (if m.isPausedBy (content.owners m here).toOption then .done (.finished (.ok .awaitChange))
        else InfraMachine.runWithOwners here name m (content.owners m here).toOption config
          gzip).Follows (content.reading started may) post () := by
  have storable := content.storable .infraMachine m (mem_of_get? stored)
  refine (follows_bind ..).trans ((follows_fetchOptional _ (ne_of_get? stored) _).trans ?_)
  rw [stored]
  exact (follows_bind ..).trans (follows_owners storable _)

end Reading

end Content

end MachineProvider
