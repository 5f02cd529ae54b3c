import MachineProvider.Proofs.Machine.Services
import MachineProvider.Proofs.Object

/-!
# Every run keeps to the rules

The reads, the reconcile and the writes of a run are put together. What is written follows the
version that the run knows, and a new instance that could not be recorded by the first write is
recorded by the second one. `run_follows` says so for a whole run, whatever it is answered.
-/

namespace MachineProvider.InfraMachine

open Procedure Controller

variable {reaches : Prop} {here : String} {s : Progress}

namespace Progress

theorem Settled.of_unborn (unborn : s.created = none) : s.Settled := by
  intro born
  rw [unborn] at born
  cases born

/-- What holds after an object was written over the known version: the new instance is recorded, or
the write was the first one and was rejected. -/
structure Written (s s' : Progress) (result : Except Error Unit) : Prop where
  created : s'.created = s.created
  recorded : s.recorded = true → s'.recorded = true
  settled : s'.Settled ∨ s.refused = false ∧ s'.refused = true ∧ isConflict result = true

/-- A new instance gives a fresh provider ID to what is written over a version without one. -/
theorem Prepared.isFresh {m o : InfraMachine} (h : s.Prepared reaches m o) (known : s.known = some m)
    (born : s.created.isSome = true) (unnamed : m.spec.providerId = none) : s.isFresh o = true := by
  obtain ⟨i, hi⟩ := Option.isSome_iff_exists.mp born
  simp [Progress.isFresh, known, unnamed, h.providerId, providerIdAfter, hi]

/-- What is written over a version records the new instance. -/
theorem Prepared.isSome {m o : InfraMachine} (h : s.Prepared reaches m o)
    (born : s.created.isSome = true) : o.spec.providerId.isSome = true := by
  obtain ⟨i, hi⟩ := Option.isSome_iff_exists.mp born
  simp [h.providerId, providerIdAfter, hi]

/-- A rejection because of a change is no sign that the object is gone. -/
theorem isGone_eq_false_of_conflict (plan : WritePlan) {e : ApiFailure}
    (conflict : e.hasCode 409 = true) : plan.isGone e = false := by
  cases e with
  | refused message reason code =>
      have code_eq : code = 409 := by simpa [ApiFailure.hasCode] using conflict
      simp [WritePlan.isGone, ApiFailure.hasCode, code_eq]
  | unusable detail => simp [ApiFailure.hasCode] at conflict

end Progress

section Writes

variable {m o : InfraMachine} {name : String}

/-- The status is written over the version that is known once a new instance is recorded, and nothing
is learned from it. -/
theorem follows_writeStatus {post : Except Error Unit → Progress → Prop} (plan : WritePlan)
    (known : s.known = some m) (named : m.metadata.name = some name)
    (version : o.metadata.resourceVersion = m.metadata.resourceVersion) (settled : s.Settled)
    (h : ∀ result, post result s) :
    (writeStatus .infraMachine here name plan o).Follows (Progress.discipline reaches here) post s := by
  unfold writeStatus
  split
  · exact h _
  split
  · exact h _
  refine ⟨⟨rfl, settled, m, known, named, version⟩, ?_⟩
  rintro (e | ⟨⟩) -
  · exact h _
  · exact h _

/-- What may be written over the known version is written over it. When the write fails, it is
known whether there is an instance left to be recorded. -/
theorem follows_write (known : s.known = some m) (named : m.metadata.name = some name)
    (nonempty : name.isEmpty = false)
    (recorded : m.spec.providerId.isSome = true → s.recorded = true) (prepared : s.Prepared reaches m o) :
    (write .infraMachine here m o).Follows (Progress.discipline reaches here)
      (fun result s' => s.Written s' result) s := by
  have unwritten : (@WritePlan.between .infraMachine m o).replaceObject = false → s.Settled := by
    intro same born
    apply recorded
    have spec : m.spec = o.spec := bne_eq_false_iff_eq.mp (Bool.or_eq_false_iff.mp same).2
    rw [spec]
    exact prepared.isSome born
  unfold write
  dsimp only
  split
  next noop =>
      have same : (@WritePlan.between .infraMachine m o).replaceObject = false := by
        simp only [WritePlan.isNoop, Bool.and_eq_true, Bool.not_eq_true'] at noop
        exact noop.1
      exact ⟨rfl, id, .inl (unwritten same)⟩
  rw [prepared.name, named]
  dsimp only
  split
  · have asked : Controller.replace .infraMachine here name o =
        .ask (.replace .infraMachine here name o) .done := by
      simp [Controller.replace, nonempty]
    rw [asked]
    refine ⟨⟨rfl, m, known, named, prepared⟩, ?_⟩
    rintro (e | written) ⟨lands, agrees, -⟩
    · have contested : s.created.isSome = true → m.spec.providerId = none →
          e.hasCode 409 = true ∧ s.refused = false := fun born unnamed =>
        lands (prepared.isFresh known born unnamed)
      have settled : Progress.Settled { s with known := none, refused := s.refused || s.isFresh o } ∨
          s.refused = false ∧ (s.refused || s.isFresh o) = true ∧ e.hasCode 409 = true := by
        by_cases pending : s.created.isSome = true ∧ m.spec.providerId = none
        · obtain ⟨conflict, unrefused⟩ := contested pending.1 pending.2
          exact .inr ⟨unrefused, by simp [prepared.isFresh known pending.1 pending.2], conflict⟩
        · refine .inl fun born => recorded ?_
          have named' : m.spec.providerId ≠ none := fun unnamed => pending ⟨born, unnamed⟩
          exact Option.isSome_iff_ne_none.mpr named'
      refine ⟨rfl, id, settled.imp_right ?_⟩
      rintro ⟨unrefused, refused, conflict⟩
      refine ⟨unrefused, refused, ?_⟩
      rw [Progress.isGone_eq_false_of_conflict _ conflict]
      exact conflict
    · have recorded' : (s.learn written).Settled := by
        intro born
        have stored : written.spec.providerId.isSome = true := by
          rw [agrees.2]
          exact prepared.isSome born
        simp [Progress.learn, stored]
      refine follows_writeStatus (m := written) _ rfl ?_ rfl recorded' ?_
      · rw [agrees.1, prepared.name, named]
      · intro result
        exact ⟨rfl, fun before => Bool.or_eq_true_iff.mpr (.inl before), .inl recorded'⟩
  next same =>
      have settled : s.Settled := unwritten (by simpa using same)
      refine follows_writeStatus (m := m) _ known named prepared.version settled ?_
      intro result
      exact ⟨rfl, id, .inl settled⟩

/-- Reading the machine makes its version known. -/
theorem follows_fetch {post : Except Error InfraMachine → Progress → Prop}
    (nonempty : name.isEmpty = false)
    (found : ∀ m : InfraMachine, m.metadata.name = some name → post (.ok m) (s.learn m))
    (failed : ∀ e, s.refused = false → post (.error e) s) :
    (fetch .infraMachine here name).Follows (Progress.discipline reaches here) post s := by
  unfold Controller.fetch
  rw [nonempty]
  refine ⟨trivial, ?_⟩
  rintro (e | m) ⟨lands, agrees, -⟩
  · exact failed _ lands
  · exact found m agrees

/-- The record of a new instance on the latest version follows that version. -/
theorem prepared_of_rebase? {latest stamped rebased : InfraMachine} {i : Instance}
    (created : s.created = some i)
    (stamp : stamped.spec.providerId = some (ProviderId.ofInstance i.id))
    (h : rebase? latest stamped = some rebased) : s.Prepared reaches latest rebased := by
  simp only [rebase?, stamp] at h
  split at h
  · cases h
  obtain rfl := Option.some.inj h
  refine ⟨?_, ?_, ?_, ?_⟩
  · split <;> simp
  · split <;> simp
  · split <;> simp [Progress.providerIdAfter, created]
  · intro present
    left
    split
    · exact Object.hasFinalizer_addFinalizer _ _ _ present
    · exact present

/-- A version that the record of a new instance cannot be written on names an instance. -/
theorem isSome_of_rebase?_eq_none {latest stamped : InfraMachine}
    (stamp : stamped.spec.providerId.isSome = true) (h : rebase? latest stamped = none) :
    latest.spec.providerId.isSome = true := by
  obtain ⟨created, hc⟩ := Option.isSome_iff_exists.mp stamp
  simp only [rebase?, hc] at h
  split at h
  next conflict => exact (Bool.and_eq_true_iff.mp conflict).1
  · cases h

/-- After the second write a new instance is recorded. -/
theorem follows_writeOnLatest {i : Instance} (nonempty : name.isEmpty = false)
    (created : s.created = some i)
    (stamp : o.spec.providerId = some (ProviderId.ofInstance i.id))
    (pending : s.Settled ∨ s.refused = true) :
    (writeOnLatest here name o).Follows (Progress.discipline reaches here) (fun _ s' => s'.Settled) s := by
  refine (follows_bind _ _ _ _).mpr (follows_fetch nonempty ?_ ?_)
  · intro latest named
    have recorded : latest.spec.providerId.isSome = true → (s.learn latest).recorded = true :=
      fun stored => Bool.or_eq_true_iff.mpr (.inr stored)
    dsimp only
    cases hr : rebase? latest o with
    | none =>
        have stored := isSome_of_rebase?_eq_none (by rw [stamp]; rfl) hr
        exact fun _ => recorded stored
    | some rebased =>
        have prepared : (s.learn latest).Prepared reaches latest rebased :=
          prepared_of_rebase? created stamp hr
        refine (follows_write rfl named nonempty recorded prepared).mono ?_
        rintro result s' ⟨created', recorded', settled' | ⟨unrefused, -, -⟩⟩
        · exact settled'
        · intro born
          apply recorded'
          have settled : s.Settled := by
            refine pending.resolve_right ?_
            rw [show s.refused = false from unrefused]
            decide
          exact Bool.or_eq_true_iff.mpr (.inl (settled (by rw [created]; rfl)))
  · intro e unrefused
    rw [unrefused] at pending
    exact pending.resolve_right (by decide)

/-- After the write, or after both writes, a new instance is recorded. -/
theorem follows_writeBack (known : s.known = some m) (named : m.metadata.name = some name)
    (nonempty : name.isEmpty = false)
    (recorded : m.spec.providerId.isSome = true → s.recorded = true) (prepared : s.Prepared reaches m o) :
    (writeBack here name m o).Follows (Progress.discipline reaches here) (fun _ s' => s'.Settled) s := by
  unfold writeBack
  refine (follows_write known named nonempty recorded prepared).bind ?_
  rintro written s' ⟨created, kept, settled⟩
  split
  next again =>
      have stamped : m.spec.providerId = none ∧ o.spec.providerId.isSome = true := by
        simpa [isNewlyStamped] using (Bool.and_eq_true_iff.mp again).2
      have stamp := prepared.providerId
      cases hc : s.created with
      | none =>
          simp only [Progress.providerIdAfter, hc] at stamp
          rw [stamp, stamped.1] at stamped
          exact absurd stamped.2 (by decide)
      | some i =>
          simp only [Progress.providerIdAfter, hc] at stamp
          refine follows_writeOnLatest nonempty (created.trans hc) stamp ?_
          exact settled.imp_right fun contested => contested.2.1
  next once =>
      rcases settled with settled | ⟨-, -, conflict⟩
      · exact settled
      · intro born
        rw [created] at born
        apply kept
        apply recorded
        rw [conflict, Bool.true_and, isNewlyStamped, prepared.isSome born, Bool.and_true] at once
        simpa [Option.isSome_iff_ne_none] using once

/-- The end of a run teaches nothing. -/
theorem follows_conclude {post : Run → Progress → Prop} (outcome : Except Error Action)
    (written : Except Error Unit) (h : ∀ run, post run s) :
    (conclude .infraMachine here name outcome written).Follows (Progress.discipline reaches here) post s := by
  unfold conclude
  cases combine outcome written with
  | error e => exact h _
  | ok action => exact ⟨trivial, fun _ _ => h _⟩

/-- At the end of a run a new instance is recorded. -/
theorem follows_finish (reconciled : InfraMachine × Except Error Action)
    (named : m.metadata.name = some name) (nonempty : name.isEmpty = false)
    (h : s.Carries reaches m reconciled.1) :
    (finish here name m reconciled).Follows (Progress.discipline reaches here) (fun _ s' => s'.Settled)
      s := by
  unfold finish
  refine (follows_writeBack h.known named nonempty h.recorded h.prepared).bind ?_
  intro written s' settled
  exact follows_conclude _ _ fun _ => settled

end Writes

section Runs

variable {m : InfraMachine} {name : String} {config : Config}

/-- Reading a machine that may be missing makes its version known. -/
theorem follows_fetchOptional {post : Except Error (Option InfraMachine) → Progress → Prop}
    (unborn : s.created = none)
    (found : ∀ m : InfraMachine, name.isEmpty = false → m.metadata.name = some name →
      (reaches → m.metadata.isDeleted = true →
        (ClusterApi.ownerName? m.metadata ClusterApi.Machine.type.kind).isSome = true) →
      post (.ok (some m)) (s.learn m))
    (missing : post (.ok none) s) (failed : ∀ e, post (.error e) s) :
    (fetchOptional .infraMachine here name).Follows (Progress.discipline reaches here) post s := by
  unfold fetchOptional
  split
  · exact failed _
  next nonempty =>
      refine ⟨trivial, ?_⟩
      rintro ((⟨message, reason, code⟩ | detail) | m) ⟨-, agrees, resolves⟩
      · change post (if reason = "NotFound" then .ok none
          else .error (.api (.refused message reason code))) s
        split
        · exact missing
        · exact failed _
      · exact failed _
      · exact found m (by simpa using nonempty) agrees fun opened => resolves opened unborn

/-- Reading an owner teaches nothing about the machine. It leads on when the way to the cloud is
open. -/
theorem follows_fetchOwner {kind : Kind} {other : String}
    {post : Except Error (Option kind.Object) → Progress → Prop} (onward : kind.Object → Bool)
    (foreign : kind ≠ .infraMachine)
    (leads : ∀ answer, s.Resolves (.fetch kind here other) answer → s.IsDeleting →
      Progress.Leads onward (ApiAnswer.present answer))
    (h : ∀ result, (reaches → s.IsDeleting → Progress.Leads onward result) → post result s) :
    (fetchOptional kind here other).Follows (Progress.discipline reaches here) post s := by
  unfold fetchOptional
  split
  · refine h _ ?_
    intro _ _ found hf
    cases hf
  · refine ⟨trivial, ?_⟩
    rintro answer ⟨-, -, resolves⟩
    have same : (Progress.discipline reaches here).next s (.fetch kind here other) answer = s := by
      cases kind with
      | infraMachine => exact absurd rfl foreign
      | _ => rfl
    rw [same]
    exact h _ fun opened => leads answer (resolves opened)

/-- Looking for the owners teaches nothing about the machine. They are all there when the way to the
cloud is open. -/
theorem follows_owners {post : Except Error (Option Owners) → Progress → Prop}
    (owned : reaches → s.IsDeleting →
      (ClusterApi.ownerName? m.metadata ClusterApi.Machine.type.kind).isSome = true)
    (h : ∀ result, (reaches → s.IsDeleting → Progress.Leads (fun _ => true) result) →
      post result s) :
    (m.owners here).Follows (Progress.discipline reaches here) post s := by
  have failed : ∀ e, post (.error e) s := by
    intro e
    refine h _ ?_
    intro _ _ found hf
    cases hf
  have missing : ¬ (reaches ∧ s.IsDeleting) → post (.ok none) s := by
    intro blocked
    exact h _ fun opened deleting => absurd ⟨opened, deleting⟩ blocked
  unfold owners
  split
  next unowned =>
      refine missing ?_
      rintro ⟨opened, deleting⟩
      have named := owned opened deleting
      rw [unowned] at named
      cases named
  refine (follows_bind _ _ _ _).mpr (follows_fetchOwner
    (fun owner : ClusterApi.Machine => owner.clusterName?.isSome) (by decide) (fun _ h => h) ?_)
  rintro (e | machine | machine) leads
  · exact failed _
  · exact missing fun opened => by cases leads opened.1 opened.2 none rfl
  dsimp only
  unfold ownersOfMachine
  split
  next unnamed =>
      refine missing ?_
      rintro ⟨opened, deleting⟩
      have named := leads opened deleting _ rfl
      rw [Option.any_some, unnamed] at named
      cases named
  refine (follows_bind _ _ _ _).mpr (follows_fetchOwner
    (fun owner : ClusterApi.Cluster => (owner.infrastructureName? InfraCluster.type.kind).isSome)
    (by decide) (fun _ h => h) ?_)
  rintro (e | cluster | cluster) leads
  · exact failed _
  · exact missing fun opened => by cases leads opened.1 opened.2 none rfl
  dsimp only
  unfold ownersFrom
  split
  next unnamed =>
      refine missing ?_
      rintro ⟨opened, deleting⟩
      have named := leads opened deleting _ rfl
      rw [Option.any_some, unnamed] at named
      cases named
  refine (follows_bind _ _ _ _).mpr (follows_fetchOwner (fun _ : InfraCluster => true) (by decide)
    (fun _ h => h) ?_)
  rintro (e | infraCluster | infraCluster) leads
  · exact failed _
  · exact missing fun opened => by cases leads opened.1 opened.2 none rfl
  · refine h _ ?_
    rintro _ _ _ ⟨⟩
    rfl

/-- The rest of a run, once the machine and its owners have been read. -/
theorem follows_runWithOwners (known : Option Owners) (gzip : Gzip.Compressor) (h : s.Working m m)
    (named : m.metadata.name = some name) (nonempty : name.isEmpty = false)
    (unborn : s.created = none) (owned : reaches → s.IsDeleting → known.isSome = true) :
    (runWithOwners here name m known config gzip).Follows (Progress.discipline reaches here)
      (fun _ s' => s'.Settled) s := by
  unfold runWithOwners
  refine ⟨trivial, ?_⟩
  intro started _
  have idle : s.Settled := .of_unborn unborn
  cases started with
  | false => exact idle
  | true =>
      cases deleted : m.metadata.isDeleted with
      | true =>
          refine Follows.bind ((follows_ofService _ _ _ _).mpr
            (follows_cleanUp _ h unborn deleted ?_)) ?_
          · intro opened
            rw [Option.isSome_map]
            exact owned opened ⟨m, h.known, deleted⟩
          · intro reconciled s' carries
            exact follows_finish reconciled named nonempty carries
      | false =>
          cases known with
          | none => exact idle
          | some o =>
              refine Follows.bind ((follows_ofService _ _ _ _).mpr
                (follows_reconcile _ h unborn deleted)) ?_
              intro reconciled s' carries
              exact follows_finish reconciled named nonempty carries

/-- Every run keeps to the rules, and at its end a new instance is recorded. -/
theorem run_follows (here name : String) (config : Config) (gzip : Gzip.Compressor) :
    (run (some here) name config gzip).Follows (Progress.discipline reaches here)
      (fun _ s' => s'.Settled) {} := by
  have idle : ∀ s : Progress, s.created = none → s.Settled := fun _ => .of_unborn
  unfold run
  refine (follows_bind _ _ _ _).mpr (follows_fetchOptional rfl ?_ ?_ ?_)
  · intro m nonempty named owned
    have working : Progress.Working (Progress.learn {} m) m m :=
      .of_known rfl rfl (fun recorded => recorded) rfl
    refine (follows_bind _ _ _ _).mpr (follows_owners ?_ ?_)
    · rintro opened ⟨m', hm', deleted⟩
      obtain rfl : m = m' := Option.some.inj hm'
      exact owned opened deleted
    rintro (e | known) leads
    · exact idle _ rfl
    dsimp only
    split
    · exact idle _ rfl
    · refine follows_runWithOwners _ gzip working named nonempty rfl ?_
      intro opened deleting
      exact Option.isSome_of_any (leads opened deleting known rfl)
  · exact idle _ rfl
  · intro e
    exact idle _ rfl

end Runs

end MachineProvider.InfraMachine
