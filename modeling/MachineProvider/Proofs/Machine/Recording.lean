import MachineProvider.Cluster.Run
import MachineProvider.Proofs.Machine.FinalFailure
import MachineProvider.Proofs.Machine.History

/-!
# Every created instance is to be recorded

A run that has created an instance does not end before it has tried to record it: it writes the machine
with the provider ID of the instance. `discipline` keeps the instances for which this is still to be
done. None is left when a run for a machine ends, whatever it was answered (`follows_machine_run`), and
runs for clusters create none (`keeps_cluster_run`).
-/

namespace MachineProvider.Recording

open Procedure Controller

/-- Whether a question is a write that records an instance. -/
def records : Question → Instance → Bool
  | .replace .infraMachine _ _ o, i => o.spec.providerId = some (ProviderId.ofInstance i.id)
  | _, _ => false

/-- The instances that are still to be recorded after an answer. -/
def next (pending : List Instance) (q : Question) (a : Answer q) : List Instance :=
  (InfraMachine.born q a).toList ++ pending.filter fun i => !records q i

/-- The record of the instances that are still to be recorded. Everything may be asked; what the API
server gives back is the machine that was asked for. -/
def discipline : Discipline Question Answer (List Instance) where
  next := next
  may _ _ := True
  expects _ q a := InfraMachine.Progress.Agrees q a

/-- Whether nothing is left to be recorded at the end. -/
def Cleared {α : Type} (_ : α) (pending : List Instance) : Prop := pending = []

/-- An answer that creates nothing leaves nothing to record. -/
theorem next_nil {q : Question} {a : Answer q} (barren : InfraMachine.born q a = none) :
    discipline.next [] q a = [] := by
  change (InfraMachine.born q a).toList ++ [] = []
  rw [barren]
  rfl

section Parts

variable {kind : Kind} {here name : String}

theorem ignoresWrites : IgnoresWrites discipline [] kind where
  mayReplace _ _ _ := trivial
  sameReplace _ _ _ _ := next_nil rfl
  mayReplaceStatus _ _ _ := trivial
  sameReplaceStatus _ _ _ _ := next_nil rfl

theorem keeps_conclude (outcome : Except Error Action) (written : Except Error Unit) :
    (conclude kind here name outcome written).Keeps discipline [] := by
  unfold conclude
  split
  · exact keeps_done _ _
  · exact .ask trivial (fun _ => next_nil rfl) fun _ => keeps_done _ _

end Parts

section Clusters

variable {c : InfraCluster} {here name : String} {config : Config}

theorem keeps_call {r : Request} (barren : ∀ a, InfraMachine.born (.service (.call r)) a = none) :
    (Service.call r).Keeps discipline.onServices [] :=
  .ask trivial (fun a => next_nil (barren a)) fun _ => keeps_done _ _

theorem keeps_now : Service.now.Keeps discipline.onServices [] :=
  .ask trivial (fun _ => next_nil rfl) fun _ => keeps_done _ _

theorem keeps_connect (location : SecretLocation) :
    (Service.connect location).Keeps discipline.onServices [] :=
  Service.keeps_connect trivial (fun _ => next_nil rfl) (fun _ => trivial)
    fun _ _ => next_nil rfl

theorem keeps_cluster_reconcile (scope : ClusterScope) :
    (c.reconcile scope).Keeps discipline.onServices [] := by
  unfold InfraCluster.reconcile
  split
  · exact keeps_done _ _
  refine (keeps_connect _).bind ?_
  rintro (e | ⟨⟩)
  · exact keeps_now.bind fun _ => keeps_done _ _
  · refine Keeps.bind ?_ fun _ => keeps_done _ _
    exact keeps_now.bind fun _ => keeps_now.bind fun _ => keeps_done _ _

theorem keeps_cluster_cleanUp (credentials : SecretLocation) :
    (c.cleanUp credentials).Keeps discipline.onServices [] := by
  unfold InfraCluster.cleanUp
  split
  · exact keeps_done _ _
  refine Keeps.bind ?_ fun _ => keeps_done _ _
  unfold InfraCluster.deleteLoadBalancer
  refine (keeps_connect _).bind ?_
  rintro (e | ⟨⟩)
  · exact keeps_done _ _
  dsimp only
  split
  · exact keeps_done _ _
  · exact (keeps_call fun _ => rfl).bind fun _ => keeps_done _ _

theorem keeps_ofService {α : Type} {service : Service α} (h : service.Keeps discipline.onServices []) :
    (ofService service).Keeps discipline [] :=
  (follows_ofService _ _ _ _).mpr h

theorem keeps_cluster_finish (reconciled : InfraCluster × Except Error Action) :
    (InfraCluster.finish here name c reconciled).Keeps discipline [] :=
  (keeps_write ignoresWrites _ _).bind fun _ => keeps_conclude _ _

/-- A run for a cluster creates no instance. -/
theorem keeps_cluster_run («namespace» : Option String) (name : String) (config : Config) :
    (InfraCluster.run «namespace» name config).Keeps discipline [] := by
  have read (kind : Kind) (here other : String) :
      (fetchOptional kind here other).Keeps discipline [] :=
    keeps_fetchOptional trivial fun _ => next_nil rfl
  unfold InfraCluster.run
  cases «namespace» with
  | none => exact keeps_done _ _
  | some here =>
      refine (read _ here name).bind ?_
      rintro (e | before | before)
      · exact keeps_done _ _
      · exact keeps_done _ _
      have owner : (InfraCluster.owner before here).Keeps discipline [] := by
        unfold InfraCluster.owner
        split
        · exact keeps_done _ _
        · exact read _ here _
      refine owner.bind ?_
      rintro (e | known)
      · exact keeps_done _ _
      dsimp only
      split
      · exact keeps_done _ _
      refine .ask trivial (fun _ => next_nil rfl) ?_
      intro started
      dsimp only
      split
      · exact keeps_done _ _
      split
      · exact (keeps_ofService (keeps_cluster_cleanUp _)).bind fun _ => keeps_cluster_finish _
      cases known with
      | none => exact keeps_done _ _
      | some cluster =>
          exact (keeps_ofService (keeps_cluster_reconcile _)).bind fun _ => keeps_cluster_finish _

end Clusters

section Services

variable {m : InfraMachine} {here : String} {pending : List Instance}

/-- What a run has created, as seen by the rules of every run: an instance that is still to be recorded
was created for a version without a provider ID. -/
structure Pending (s : InfraMachine.Progress) (pending : List Instance) : Prop where
  created : pending = s.created.toList
  unnamed : s.created.isSome = true → ∃ m, s.known = some m ∧ m.spec.providerId = none

/-- Whether writing the object `o` over the version `m` records the instances that are still to be
recorded. -/
structure Stamps (m o : InfraMachine) (pending : List Instance) : Prop where
  name : o.metadata.name = m.metadata.name
  unnamed : ∀ i ∈ pending, m.spec.providerId = none
  stamped : ∀ i ∈ pending, o.spec.providerId = some (ProviderId.ofInstance i.id)

/-- What the services answer about instances shows nothing of the machine. -/
theorem next_service (s : InfraMachine.Progress) (q : Service.Question) (a : Service.Answer q) :
    (s.next (.service q) a).known = s.known ∧
      (s.next (.service q) a).created = (InfraMachine.born (.service q) a).or s.created := by
  unfold InfraMachine.Progress.next InfraMachine.born
  cases q with
  | call request =>
      cases request <;> rcases a with (cause | cause | (e | i)) <;> dsimp only <;>
        first | exact ⟨rfl, rfl⟩ | (split <;> exact ⟨rfl, rfl⟩)
  | connect credentials => exact ⟨rfl, rfl⟩
  | publish event => exact ⟨rfl, rfl⟩
  | now => exact ⟨rfl, rfl⟩

/-- The services create an instance only for a version without a provider ID. -/
theorem Pending.next {s : InfraMachine.Progress} (h : Pending s pending) {q : Service.Question}
    {a : Service.Answer q} (may : s.May False here (.service q)) :
    Pending (s.next (.service q) a) (Recording.next pending (.service q) a) := by
  obtain ⟨known, created⟩ := next_service s q a
  have kept : Recording.next pending (.service q) a =
      (InfraMachine.born (.service q) a).toList ++ pending :=
    congrArg _ (List.filter_eq_self.mpr fun _ _ => rfl)
  rw [kept]
  cases new : InfraMachine.born (.service q) a with
  | none =>
      rw [new, Option.none_or] at created
      refine ⟨h.created.trans (by rw [created]), ?_⟩
      rw [created, known]
      exact h.unnamed
  | some i =>
      obtain ⟨unborn, m, current, unnamed, -⟩ : s.MayCreate := by
        cases q with
        | call request =>
            cases request with
            | createInstance request => exact may
            | _ => cases new
        | _ => cases new
      rw [new, Option.some_or] at created
      refine ⟨?_, fun _ => ⟨m, known.trans current, unnamed⟩⟩
      rw [h.created, unborn, created]
      rfl

/-- What a service gives back is to be written over the version that the run knows. -/
theorem follows_services {p : Service (InfraMachine × Except Error Action)}
    (h : p.Follows (InfraMachine.Progress.discipline False "").onServices
      (fun r s' => s'.Carries False m r.1) (InfraMachine.Progress.learn {} m)) :
    (ofService p).Follows discipline (fun r pending => Stamps m r.1 pending) [] := by
  -- The rules of every run say which provider ID is to follow, so their record is carried along.
  refine (follows_ofService _ _ _ _).mpr ?_
  have fresh : Pending (InfraMachine.Progress.learn {} m) [] := ⟨rfl, nofun⟩
  have related : p.Follows discipline.onServices
      (fun r pending => ∃ s, Pending s pending ∧ s.Carries False m r.1) [] :=
    h.simulate fresh (fun _ _ _ _ _ => trivial) (fun _ _ _ _ _ _ => ⟨trivial, trivial, False.elim⟩)
      (fun _ _ _ _ pending may _ => pending.next may)
  refine related.mono ?_
  rintro r pending ⟨s, fits, carries⟩
  have born : ∀ i ∈ pending, s.created = some i := by
    intro i member
    rw [fits.created] at member
    exact Option.mem_toList.mp member
  refine ⟨carries.prepared.name, ?_, ?_⟩
  · intro i member
    obtain ⟨m', known, unnamed⟩ := fits.unnamed (by rw [born i member]; rfl)
    obtain rfl : m = m' := Option.some.inj (carries.known.symm.trans known)
    exact unnamed
  · intro i member
    rw [carries.prepared.providerId, InfraMachine.Progress.providerIdAfter, born i member]

end Services

section Runs

variable {m o : Kind.infraMachine.Object} {here name : String} {pending : List Instance}
  {config : Config}

/-- When the specification stays, nothing is to be recorded. -/
theorem Stamps.eq_nil (h : Stamps m o pending)
    (same : (@WritePlan.between .infraMachine m o).replaceObject = false) : pending = [] := by
  refine List.eq_nil_iff_forall_not_mem.mpr ?_
  intro i member
  have spec : m.spec = o.spec := bne_eq_false_iff_eq.mp (Bool.or_eq_false_iff.mp same).2
  have stamped := h.stamped i member
  rw [← spec, h.unnamed i member] at stamped
  cases stamped

/-- A write tries to record what is to be recorded. -/
theorem follows_write (named : m.metadata.name = some name) (nonempty : name.isEmpty = false)
    (h : Stamps m o pending) :
    (write .infraMachine here m o).Follows discipline Cleared pending := by
  rcases write_cases here m o with
    ⟨noop, -⟩ | ⟨nameless, -⟩ | ⟨sent, -, whole⟩ | ⟨sent, unchanged, -⟩
  · have same : (@WritePlan.between .infraMachine m o).replaceObject = false := by
      simp only [WritePlan.isNoop, Bool.and_eq_true, Bool.not_eq_true'] at noop
      exact noop.1
    rw [h.eq_nil same]
    exact keeps_write ignoresWrites _ _
  · have empty := nameless name (h.name.trans named)
    rw [nonempty] at empty
    cases empty
  · rw [whole]
    refine ⟨trivial, ?_⟩
    intro a _
    have recorded : discipline.next pending (.replace .infraMachine here sent o) a = [] := by
      change ([] : List Instance) ++ pending.filter _ = []
      rw [List.nil_append, List.filter_eq_nil_iff]
      intro i member
      simp [records, h.stamped i member]
    rw [recorded]
    exact keeps_afterReplace ignoresWrites _ _ a
  · rw [h.eq_nil unchanged]
    exact keeps_write ignoresWrites _ _

theorem keeps_writeOnLatest : (InfraMachine.writeOnLatest here name o).Keeps discipline [] := by
  unfold InfraMachine.writeOnLatest
  refine Keeps.bind ?_ ?_
  · unfold fetch
    split
    · exact keeps_done _ _
    · refine .ask trivial (fun _ => next_nil rfl) ?_
      rintro (e | latest) <;> exact keeps_done _ _
  · rintro (e | latest)
    · exact keeps_done _ _
    dsimp only
    split
    · exact keeps_done _ _
    · exact keeps_write ignoresWrites _ _

theorem follows_writeBack (named : m.metadata.name = some name) (nonempty : name.isEmpty = false)
    (h : Stamps m o pending) :
    (InfraMachine.writeBack here name m o).Follows discipline Cleared pending := by
  unfold InfraMachine.writeBack
  refine (follows_write named nonempty h).bind ?_
  rintro written _ rfl
  split
  · exact keeps_writeOnLatest
  · exact keeps_done _ _

theorem follows_finish (reconciled : InfraMachine × Except Error Action)
    (named : m.metadata.name = some name) (nonempty : name.isEmpty = false)
    (h : Stamps m reconciled.1 pending) :
    (InfraMachine.finish here name m reconciled).Follows discipline Cleared pending := by
  unfold InfraMachine.finish
  refine (follows_writeBack named nonempty h).bind ?_
  rintro written _ rfl
  exact keeps_conclude _ _

theorem follows_runWithOwners (owners : Option Owners) {gzip : Gzip.Compressor}
    (named : m.metadata.name = some name) (nonempty : name.isEmpty = false) :
    (InfraMachine.runWithOwners here name m owners config gzip).Follows discipline Cleared [] := by
  unfold InfraMachine.runWithOwners
  refine ⟨trivial, ?_⟩
  intro started _
  change (if _ then _ else _ : Controller Run).Follows _ _ []
  cases started with
  | false => rfl
  | true =>
      cases deleted : m.metadata.isDeleted with
      | true =>
          refine (follows_services (InfraMachine.follows_cleanUp _ (InfraMachine.working_learn m) rfl
            deleted False.elim)).bind ?_
          intro reconciled pending stamps
          exact follows_finish reconciled named nonempty stamps
      | false =>
          cases owners with
          | none => rfl
          | some o =>
              refine (follows_services (InfraMachine.follows_reconcile _ (InfraMachine.working_learn m)
                rfl deleted)).bind ?_
              intro reconciled pending stamps
              exact follows_finish reconciled named nonempty stamps

/-- A run for a machine does not end before it has tried to record what it created. -/
theorem follows_machine_run («namespace» : Option String) (name : String) (config : Config)
    (gzip : Gzip.Compressor) :
    (InfraMachine.run «namespace» name config gzip).Follows discipline Cleared [] := by
  unfold InfraMachine.run
  cases «namespace» with
  | none => rfl
  | some here =>
      have read : (fetchOptional .infraMachine here name).Follows discipline
          (fun result pending => pending = [] ∧ ∀ m, result = .ok (some m) →
            name.isEmpty = false ∧ m.metadata.name = some name) [] := by
        unfold fetchOptional
        split
        · exact ⟨rfl, fun _ found => nomatch found⟩
        next nonempty =>
          refine ⟨trivial, ?_⟩
          intro answer agrees
          refine ⟨next_nil rfl, ?_⟩
          intro m found
          obtain rfl := ApiAnswer.eq_of_present found
          exact ⟨by simpa using nonempty, agrees⟩
      refine read.bind ?_
      rintro (e | before | before) _ ⟨rfl, found⟩
      · rfl
      · rfl
      obtain ⟨nonempty, named⟩ := found before rfl
      have owners : (InfraMachine.owners before here).Keeps discipline [] :=
        InfraMachine.keeps_owners (fun _ _ _ => trivial) fun _ _ _ _ => next_nil rfl
      refine Follows.bind owners ?_
      rintro (e | known) _ rfl
      · rfl
      dsimp only
      split
      · rfl
      · exact follows_runWithOwners known named nonempty

end Runs

end MachineProvider.Recording
