import MachineProvider.Controller.Write
import MachineProvider.Proofs.Discipline
import MachineProvider.Proofs.Store

/-!
# Writing an object back among other clients

`Controller.write` brings a stored object from the version that was read to a reconciled one, in one
request or in two. Meanwhile other clients may write the object too, and any request may be refused.
`Writing` is such a write with everything that may happen to the object while it goes on. It never
writes over a version of another client, and its result says how much of the object was stored
(`write_settles`).
-/

namespace MachineProvider

namespace Object

variable {σ τ : Type}

/-- Whether an object differs from a version of it in finalizers, specification and status only. -/
def Revises (after before : Object σ τ) : Prop :=
  after.metadata = { before.metadata with finalizers := after.metadata.finalizers }

/-- Whether an object is let go: it is deleted and has no finalizer left. -/
def IsReleased (o : Object σ τ) : Prop :=
  o.metadata.isDeleted = true ∧ o.metadata.finalizerList = []

/-- Whether two versions have the same finalizers and the same specification. -/
structure Agrees (v o : Object σ τ) : Prop where
  finalizers : v.metadata.finalizerList = o.metadata.finalizerList
  spec : v.spec = o.spec

/-- What the API server stores for a write of metadata and specification over a version: the status
stays, and the resource version and the generation are the server's own. -/
structure Replaces (cur o v : Object σ τ) : Prop where
  metadata : v.metadata = { o.metadata with
    resourceVersion := v.metadata.resourceVersion, generation := v.metadata.generation }
  spec : v.spec = o.spec
  status : v.status = cur.status

/-- What the API server stores for a write of the status over a version: only the status changes. -/
structure ReplacesStatus (cur o v : Object σ τ) : Prop where
  metadata : v.metadata = { cur.metadata with resourceVersion := v.metadata.resourceVersion }
  spec : v.spec = cur.spec
  status : v.status = o.status

variable {cur o v : Object σ τ}

theorem Replaces.agrees (h : cur.Replaces o v) : v.Agrees o where
  finalizers := by
    unfold Metadata.finalizerList
    rw [h.metadata]
  spec := h.spec

theorem ReplacesStatus.agrees (h : cur.ReplacesStatus o v) : v.Agrees cur where
  finalizers := by
    unfold Metadata.finalizerList
    rw [h.metadata]
  spec := h.spec

theorem Agrees.trans {w : Object σ τ} (h : v.Agrees w) (h' : w.Agrees o) : v.Agrees o where
  finalizers := h.finalizers.trans h'.finalizers
  spec := h.spec.trans h'.spec

theorem Revises.version_eq (h : o.Revises cur) : version o = version cur := by
  have same : o.metadata.resourceVersion = cur.metadata.resourceVersion := by rw [h]
  exact same

end Object

namespace Store

variable {σ τ : Type}

/-- The store after a version was written: a deleted object without finalizers goes away. -/
def accept (store : Store (Object σ τ)) (v : Object σ τ) : Store (Object σ τ) :=
  if v.metadata.isDeleted && v.metadata.finalizerList.isEmpty then (store.put v).remove
  else store.put v

variable {store : Store (Object σ τ)} {v : Object σ τ}

@[simp] theorem accept_versions : (store.accept v).versions = v :: store.versions := by
  unfold accept
  split <;> rfl

theorem Lawful.accept (lawful : store.Lawful) (fresh : store.IsFresh v) :
    (store.accept v).Lawful := by
  unfold Store.accept
  split
  · exact (lawful.put fresh).remove
  · exact lawful.put fresh

end Store

namespace Controller

variable {kind : Kind}

/-- What became of a request to write an object. -/
inductive Deed (kind : Kind) where
  /-- A version was stored over another one. -/
  | stored (old v : kind.Object)
  /-- The request was refused, and what stands was left as it was. -/
  | refused (cause : ApiFailure) (stands : Option kind.Object)

namespace Deed

/-- The store after a request. -/
def applyTo (store : Store kind.Object) : Deed kind → Store kind.Object
  | stored _ v => store.accept v
  | refused .. => store

/-- The version that was stored last, or the one that was read when nothing was stored. -/
def latest (before : kind.Object) : List (Deed kind) → kind.Object
  | [] => before
  | stored _ v :: _ => v
  | refused .. :: past => latest before past

/-- Whether every version was stored over the one that was read, or over the one stored before. -/
def Chained (before : kind.Object) : List (Deed kind) → Prop
  | [] => True
  | stored old _ :: past => old = latest before past ∧ Chained before past
  | refused .. :: past => Chained before past

/-- Whether nothing was stored. -/
def AllRefused (deeds : List (Deed kind)) : Prop :=
  ∀ old v, stored old v ∉ deeds

end Deed

section Writing

variable («namespace» name : String)

/-- How the API server answers a request to write an object. Only the current version is written over,
and only when the request names it. -/
inductive Serves (store : Store kind.Object) : (q : Question) → Answer q → Deed kind → Prop
  | replaced {cur o v : kind.Object} (current : store.current = some cur)
    (onto : version o = none ∨ version o = version cur) (fresh : store.IsFresh v)
    (replaces : cur.Replaces o v) :
    Serves store (.replace kind «namespace» name o) (.ok v) (.stored cur v)
  | noted {cur o v : kind.Object} (current : store.current = some cur)
    (onto : version o = none ∨ version o = version cur) (fresh : store.IsFresh v)
    (replaces : cur.ReplacesStatus o v) :
    Serves store (.replaceStatus kind «namespace» name o) (.ok ()) (.stored cur v)
  | notReplaced {n nm : String} {o : kind.Object} (cause : ApiFailure) :
    Serves store (.replace kind n nm o) (.error cause) (.refused cause store.current)
  | notNoted {n nm : String} {o : kind.Object} (cause : ApiFailure) :
    Serves store (.replaceStatus kind n nm o) (.error cause) (.refused cause store.current)

/-- An object that is brought from `before`, as it was read, to `after`: what is stored, what became of
the requests, the last one first, and what is left to do. -/
inductive Writing (before after : kind.Object) :
    Store kind.Object → List (Deed kind) → Controller (Except Error Unit) → Prop
  | begins {store : Store kind.Object} (lawful : store.Lawful) (read : before ∈ store.versions) :
    Writing before after store [] (write kind «namespace» before after)
  | answered {store : Store kind.Object} {past : List (Deed kind)} {q : Question}
    {next : Answer q → Controller (Except Error Unit)} {a : Answer q} {deed : Deed kind}
    (earlier : Writing before after store past (.ask q next))
    (served : Serves «namespace» name store q a deed) :
    Writing before after (deed.applyTo store) (deed :: past) (next a)
  /-- Another client stores a version. -/
  | edited {store : Store kind.Object} {past : List (Deed kind)}
    {rest : Controller (Except Error Unit)} {v : kind.Object}
    (earlier : Writing before after store past rest) (fresh : store.IsFresh v) :
    Writing before after (store.accept v) past rest
  /-- Another client removes the object. -/
  | removed {store : Store kind.Object} {past : List (Deed kind)}
    {rest : Controller (Except Error Unit)} (earlier : Writing before after store past rest) :
    Writing before after store.remove past rest

end Writing

/-- What the result of a write says about what was stored. -/
inductive Settles (before after : kind.Object) : List (Deed kind) → Except Error Unit → Prop
  /-- The object is stored as it should be. -/
  | complete {deeds : List (Deed kind)} (agrees : (Deed.latest before deeds).Agrees after)
    (status : (Deed.latest before deeds).status = after.status) :
    Settles before after deeds (.ok ())
  /-- The object was let go, and only its status was not written. -/
  | released {deeds : List (Deed kind)} (free : after.IsReleased)
    (agrees : (Deed.latest before deeds).Agrees after) : Settles before after deeds (.ok ())
  /-- The object was let go, and the answer was that it does not exist. -/
  | gone {cause : ApiFailure} {stands : Option kind.Object} (free : after.IsReleased)
    (missing : cause.hasCode 404 = true) : Settles before after [.refused cause stands] (.ok ())
  /-- Nothing was stored. -/
  | failed {deeds : List (Deed kind)} {e : Error} (nothing : Deed.AllRefused deeds) :
    Settles before after deeds (.error e)
  /-- Only metadata and specification were stored, and the status stayed as it was. -/
  | halfway {later : List (Deed kind)} {v : kind.Object} {e : Error}
    (replaces : before.Replaces after v) (nothing : Deed.AllRefused later) :
    Settles before after (later ++ [.stored before v]) (.error e)

section Plan

variable {before after : kind.Object}

theorem agrees_of_unchanged (unchanged : (WritePlan.between before after).replaceObject = false) :
    before.Agrees after := by
  obtain ⟨finalizers, spec⟩ := Bool.or_eq_false_iff.mp unchanged
  exact ⟨bne_eq_false_iff_eq.mp finalizers, bne_eq_false_iff_eq.mp spec⟩

/-- The status is left out only of an object that is let go, or when it has not changed. -/
theorem status_of_unchanged (unchanged : (WritePlan.between before after).replaceStatus = false) :
    after.IsReleased ∨ before.status = after.status := by
  simp only [WritePlan.between, Bool.and_eq_false_iff, Bool.not_eq_false', Bool.and_eq_true,
    List.isEmpty_iff, bne_eq_false_iff_eq] at unchanged
  exact unchanged

theorem isReleased_of_isGone {cause : ApiFailure}
    (gone : (WritePlan.between before after).isGone cause = true) :
    after.IsReleased ∧ cause.hasCode 404 = true := by
  simp only [WritePlan.isGone, WritePlan.between, Bool.and_eq_true, List.isEmpty_iff] at gone
  exact gone

end Plan

section Course

variable («namespace» name : String)

/-- What follows the write of metadata and specification. -/
def afterReplace (plan : WritePlan) (object : kind.Object) :
    Except ApiFailure kind.Object → Controller (Except Error Unit)
  | .ok written => writeStatus kind «namespace» name plan (object.adoptVersion written)
  | .error e => .done (if plan.isGone e then .ok () else .error (.api e))

/-- What follows the write of the status. -/
def afterReplaceStatus : Except ApiFailure Unit → Controller (Except Error Unit)
  | .ok () => .done (.ok ())
  | .error e => .done (.error (.api e))

/-- Everything that a write of the status can be. -/
theorem writeStatus_cases (plan : WritePlan) (object : kind.Object) :
    plan.replaceStatus = false ∧
        writeStatus kind «namespace» name plan object = .done (.ok ()) ∨
      (name.isEmpty = true ∧
        writeStatus kind «namespace» name plan object = .done (.error (.api .emptyName))) ∨
      writeStatus kind «namespace» name plan object =
        .ask (.replaceStatus kind «namespace» name object) afterReplaceStatus := by
  unfold writeStatus
  cases planned : plan.replaceStatus with
  | false => exact .inl ⟨rfl, rfl⟩
  | true =>
      right
      cases empty : name.isEmpty with
      | true => exact .inl ⟨rfl, rfl⟩
      | false =>
          refine .inr (congrArg (Procedure.ask _) (funext fun answer => ?_))
          cases answer <;> rfl

/-- An object that did not change is not written. -/
theorem write_self (o : kind.Object) : write kind «namespace» o o = .done (.ok ()) := by
  have noop : (WritePlan.between o o).isNoop = true := by simp [WritePlan.between, WritePlan.isNoop]
  unfold write
  dsimp only
  rw [if_pos noop]
  rfl

/-- Everything that a write can be. -/
theorem write_cases (before after : kind.Object) :
    (WritePlan.between before after).isNoop = true ∧
        write kind «namespace» before after = .done (.ok ()) ∨
      (∀ name, after.metadata.name = some name → name.isEmpty = true) ∧
        (∃ e, e.isConflict = false ∧ write kind «namespace» before after = .done (.error e)) ∨
      (∃ name, name.isEmpty = false ∧
        write kind «namespace» before after = .ask (.replace kind «namespace» name after)
          (afterReplace «namespace» name (.between before after) after)) ∨
      ∃ name, (WritePlan.between before after).replaceObject = false ∧
        write kind «namespace» before after =
          writeStatus kind «namespace» name (.between before after) after := by
  unfold write
  dsimp only
  split
  next noop => exact .inl ⟨noop, rfl⟩
  right
  split
  next unnamed =>
    refine .inl ⟨?_, .missingObjectKey, rfl, rfl⟩
    intro name named
    rw [unnamed] at named
    cases named
  next name named =>
  split
  next planned =>
    cases empty : name.isEmpty with
    | true =>
        have unsent : Controller.replace kind «namespace» name after = .done (.error .emptyName) := by
          simp [Controller.replace, empty]
        have kept : (WritePlan.between before after).isGone .emptyName = false := Bool.and_false _
        refine .inl ⟨?_, .api .emptyName, rfl, ?_⟩
        · intro name' named'
          obtain rfl := Option.some.inj (named.symm.trans named')
          exact empty
        rw [unsent]
        change Procedure.done (if _ then _ else _) = _
        rw [kept]
        rfl
    | false =>
        have sent : Controller.replace kind «namespace» name after =
            .ask (.replace kind «namespace» name after) .done := by
          simp [Controller.replace, empty]
        refine .inr (.inl ⟨name, empty, ?_⟩)
        rw [sent]
        exact congrArg (Procedure.ask _) (funext fun answer => by cases answer <;> rfl)
  next unplanned => exact .inr (.inr ⟨name, by simpa using unplanned, rfl⟩)

end Course

section Keeps

/-- Whether a discipline lets an object be written, and leaves its record as it is then. -/
structure IgnoresWrites {σ : Type} (d : Discipline Question Answer σ) (s : σ) (kind : Kind) :
    Prop where
  mayReplace : ∀ «namespace» name o, d.may s (.replace kind «namespace» name o)
  sameReplace : ∀ «namespace» name o a, d.next s (.replace kind «namespace» name o) a = s
  mayReplaceStatus : ∀ «namespace» name o, d.may s (.replaceStatus kind «namespace» name o)
  sameReplaceStatus :
    ∀ «namespace» name o a, d.next s (.replaceStatus kind «namespace» name o) a = s

variable {σ : Type} {d : Discipline Question Answer σ} {s : σ} {«namespace» name : String}

theorem keeps_writeStatus (h : IgnoresWrites d s kind) (plan : WritePlan) (object : kind.Object) :
    (writeStatus kind «namespace» name plan object).Keeps d s := by
  rcases writeStatus_cases «namespace» name plan object with ⟨-, whole⟩ | ⟨-, whole⟩ | whole
  · rw [whole]
    exact Procedure.keeps_done _ _
  · rw [whole]
    exact Procedure.keeps_done _ _
  · rw [whole]
    apply Procedure.Keeps.ask (h.mayReplaceStatus _ _ _) (h.sameReplaceStatus _ _ _)
    rintro (e | ⟨⟩) <;> exact Procedure.keeps_done _ _

theorem keeps_afterReplace (h : IgnoresWrites d s kind) (plan : WritePlan) (object : kind.Object)
    (answer : Except ApiFailure kind.Object) :
    (afterReplace «namespace» name plan object answer).Keeps d s := by
  rcases answer with (e | v)
  · exact Procedure.keeps_done _ _
  · exact keeps_writeStatus h _ _

/-- Writing an object leaves a record as it is when its requests do. -/
theorem keeps_write (h : IgnoresWrites d s kind) (before after : kind.Object) :
    (write kind «namespace» before after).Keeps d s := by
  rcases write_cases «namespace» before after with
    ⟨-, whole⟩ | ⟨-, e, -, whole⟩ | ⟨name, -, whole⟩ | ⟨name, -, whole⟩
  · rw [whole]
    exact Procedure.keeps_done _ _
  · rw [whole]
    exact Procedure.keeps_done _ _
  · rw [whole]
    apply Procedure.Keeps.ask (h.mayReplace _ _ _) (h.sameReplace _ _ _)
    exact keeps_afterReplace h _ _
  · rw [whole]
    exact keeps_writeStatus h _ _

end Keeps

variable {«namespace» name : String} {before after : kind.Object} {store : Store kind.Object}
  {deeds : List (Deed kind)} {rest : Controller (Except Error Unit)}

/-- How far a write has come: metadata and specification are to be stored, or only the status over the
version `v`, or there is nothing left to do. -/
inductive Stands («namespace» : String) (before after : kind.Object) :
    List (Deed kind) → Controller (Except Error Unit) → Prop
  | objectLeft {name : String} :
    Stands «namespace» before after [] (.ask (.replace kind «namespace» name after)
      (afterReplace «namespace» name (.between before after) after))
  | statusLeft {name : String} {deeds : List (Deed kind)} {v o : kind.Object}
    (last : Deed.latest before deeds = v) (onto : version o = version v)
    (agrees : v.Agrees after) (status : o.status = after.status)
    (once : deeds = [] ∨ deeds = [.stored before v] ∧ before.Replaces after v) :
    Stands «namespace» before after deeds
      (.ask (.replaceStatus kind «namespace» name o) afterReplaceStatus)
  | ended {deeds : List (Deed kind)} {result : Except Error Unit}
    (settles : Settles before after deeds result) :
    Stands «namespace» before after deeds (.done result)

theorem Deed.allRefused_nil : Deed.AllRefused ([] : List (Deed kind)) :=
  fun _ _ member => nomatch member

theorem Deed.allRefused_singleton (cause : ApiFailure) (stands : Option kind.Object) :
    Deed.AllRefused [.refused cause stands] := by
  intro old v member
  cases List.mem_singleton.mp member

/-- A failure after no more than the write of metadata and specification. -/
theorem settles_error {v : kind.Object} {later : List (Deed kind)} (e : Error)
    (once : deeds = [] ∨ deeds = [.stored before v] ∧ before.Replaces after v)
    (nothing : Deed.AllRefused later) : Settles before after (later ++ deeds) (.error e) := by
  rcases once with rfl | ⟨rfl, replaces⟩
  · rw [List.append_nil]
    exact .failed nothing
  · exact .halfway replaces nothing

/-- A write that leaves the status out has settled. -/
theorem settles_ok (agrees : (Deed.latest before deeds).Agrees after)
    (kept : (Deed.latest before deeds).status = before.status)
    (unchanged : (WritePlan.between before after).replaceStatus = false) :
    Settles before after deeds (.ok ()) := by
  rcases status_of_unchanged unchanged with free | status
  · exact .released free agrees
  · exact .complete agrees (kept.trans status)

/-- What stands when only the status is left. -/
theorem stands_writeStatus {v o : kind.Object} (last : Deed.latest before deeds = v)
    (onto : version o = version v) (agrees : v.Agrees after) (kept : v.status = before.status)
    (status : o.status = after.status)
    (once : deeds = [] ∨ deeds = [.stored before v] ∧ before.Replaces after v) :
    Stands «namespace» before after deeds
      (writeStatus kind «namespace» name (.between before after) o) := by
  rcases writeStatus_cases «namespace» name (.between before after) o with
    ⟨unchanged, whole⟩ | ⟨-, whole⟩ | whole
  · rw [whole]
    exact .ended (settles_ok (last ▸ agrees) (last ▸ kept) unchanged)
  · rw [whole]
    exact .ended (settles_error _ once Deed.allRefused_nil)
  · rw [whole]
    exact .statusLeft last onto agrees status once

/-- What stands at the beginning. -/
theorem stands_write (revises : after.Revises before) :
    Stands «namespace» before after [] (write kind «namespace» before after) := by
  rcases write_cases «namespace» before after with
    ⟨noop, whole⟩ | ⟨-, e, -, whole⟩ | ⟨name, -, whole⟩ | ⟨name, unchanged, whole⟩
  · obtain ⟨noObject, noStatus⟩ := Bool.and_eq_true_iff.mp noop
    rw [Bool.not_eq_true'] at noObject noStatus
    rw [whole]
    exact .ended (settles_ok (agrees_of_unchanged noObject) rfl noStatus)
  · rw [whole]
    exact .ended (.failed Deed.allRefused_nil)
  · rw [whole]
    exact .objectLeft
  · rw [whole]
    exact stands_writeStatus rfl revises.version_eq (agrees_of_unchanged unchanged) rfl rfl (.inl rfl)

/-- A write that is done has settled. -/
theorem Stands.settles {result : Except Error Unit}
    (h : Stands «namespace» before after deeds (.done result)) :
    Settles before after deeds result := by
  cases h with
  | ended settles => exact settles

/-- A write over a version that was stored is accepted only while that version stands. -/
theorem eq_of_onto {cur o v : kind.Object} (lawful : store.Lawful) (member : v ∈ store.versions)
    (current : store.current = some cur) (onto : version o = none ∨ version o = version cur)
    (same : version o = version v) : cur = v := by
  have stands := lawful.current_of_accepts member same ⟨cur, current, onto⟩
  exact Option.some.inj (current.symm.trans stands)

/-- An answer leaves the write standing, and a version is stored only over the last one. -/
theorem Stands.answered {q : Question} {next : Answer q → Controller (Except Error Unit)}
    {a : Answer q} {deed : Deed kind} (revises : after.Revises before) (lawful : store.Lawful)
    (member : Deed.latest before deeds ∈ store.versions)
    (h : Stands «namespace» before after deeds (.ask q next))
    (served : Serves «namespace» name store q a deed) :
    Stands «namespace» before after (deed :: deeds) (next a) ∧
      ∀ old v, deed = .stored old v → old = Deed.latest before deeds := by
  cases h with
  | objectLeft =>
      cases served with
      | @replaced cur _ v current onto fresh replaces =>
          obtain rfl := eq_of_onto lawful member current onto revises.version_eq
          refine ⟨stands_writeStatus rfl rfl replaces.agrees replaces.status rfl
            (.inr ⟨rfl, replaces⟩), ?_⟩
          rintro old v' ⟨⟩
          rfl
      | notReplaced cause =>
          refine ⟨.ended ?_, fun _ _ stored => nomatch stored⟩
          cases gone : (WritePlan.between before after).isGone cause with
          | true =>
              obtain ⟨free, missing⟩ := isReleased_of_isGone gone
              exact .gone free missing
          | false => exact .failed (Deed.allRefused_singleton _ _)
  | statusLeft last onto' agrees status once =>
      cases served with
      | @noted cur _ v current onto fresh replaces =>
          obtain rfl := eq_of_onto lawful (last ▸ member) current onto onto'
          refine ⟨.ended (.complete (replaces.agrees.trans agrees) (replaces.status.trans status)), ?_⟩
          rintro old v' ⟨⟩
          exact last.symm
      | notNoted cause =>
          exact ⟨.ended (settles_error _ once (Deed.allRefused_singleton _ _)),
            fun _ _ stored => nomatch stored⟩

/-- At every moment of a write, the version that was read or stored last is among the versions. -/
theorem Writing.stands (revises : after.Revises before)
    (h : Writing «namespace» name before after store deeds rest) :
    store.Lawful ∧ Deed.latest before deeds ∈ store.versions ∧ Deed.Chained before deeds ∧
      Stands «namespace» before after deeds rest := by
  induction h with
  | begins lawful read => exact ⟨lawful, read, trivial, stands_write revises⟩
  | @answered store past q next a deed earlier served ih =>
      obtain ⟨lawful, member, chained, stands⟩ := ih
      obtain ⟨stands', onLatest⟩ := stands.answered revises lawful member served
      cases served with
      | replaced current onto fresh replaces =>
          exact ⟨lawful.accept fresh, by simp [Deed.latest, Deed.applyTo],
            ⟨onLatest _ _ rfl, chained⟩, stands'⟩
      | noted current onto fresh replaces =>
          exact ⟨lawful.accept fresh, by simp [Deed.latest, Deed.applyTo],
            ⟨onLatest _ _ rfl, chained⟩, stands'⟩
      | notReplaced cause => exact ⟨lawful, member, chained, stands'⟩
      | notNoted cause => exact ⟨lawful, member, chained, stands'⟩
  | edited earlier fresh ih =>
      obtain ⟨lawful, member, chained, stands⟩ := ih
      refine ⟨lawful.accept fresh, ?_, chained, stands⟩
      rw [Store.accept_versions]
      exact List.mem_cons_of_mem _ member
  | removed earlier ih =>
      obtain ⟨lawful, member, chained, stands⟩ := ih
      exact ⟨lawful.remove, member, chained, stands⟩

/-- A write stores a version only over the one that was read or over its own one before, and its result
says how much of the object was stored. -/
theorem write_settles (revises : after.Revises before)
    (h : Writing «namespace» name before after store deeds rest) :
    Deed.Chained before deeds ∧
      ∀ result, rest = .done result → Settles before after deeds result := by
  obtain ⟨-, -, chained, stands⟩ := h.stands revises
  refine ⟨chained, ?_⟩
  rintro result rfl
  exact stands.settles

/-- A machine whose instance is to be recorded. -/
def sampleRead : Kind.infraMachine.Object where
  metadata := { name := some "gpu-0", resourceVersion := some "1" }
  spec := { instanceType := "1V100.6V" }

/-- The machine with the record of its instance, and with a status. -/
def sampleReconciled : Kind.infraMachine.Object :=
  { sampleRead with
    spec := { sampleRead.spec with providerId := some "datacrunch://i-1" }
    status := some { instanceState := some .pending } }

/-- The machine as it is stored when only its status is left. -/
def sampleStored : Kind.infraMachine.Object :=
  { sampleReconciled with
    metadata := { sampleRead.metadata with resourceVersion := some "2" }
    status := none }

/-- The machine after another client has put a label on it. -/
def sampleLabelled : Kind.infraMachine.Object :=
  { sampleStored with
    metadata := { sampleStored.metadata with
      labels := some (.ofList [("team", "vision")]), resourceVersion := some "3" } }

/-- Another client writes between the two requests: the second one is refused, and what was stored is
the first one. -/
theorem write_settles_of_sample : ∃ store deeds e,
    sampleReconciled.Revises sampleRead ∧
      Writing "default" "gpu-0" sampleRead sampleReconciled store deeds (.done (.error e)) ∧
      deeds.length = 2 ∧ store.current = some sampleLabelled ∧
      Deed.Chained sampleRead deeds ∧ Settles sampleRead sampleReconciled deeds (.error e) := by
  have revises : sampleReconciled.Revises sampleRead := rfl
  have w0 : Writing "default" "gpu-0" sampleRead sampleReconciled (.ofVersion sampleRead) [] _ :=
    .begins (.ofVersion rfl) (List.mem_singleton_self _)
  have fresh : Store.IsFresh (.ofVersion sampleRead) sampleStored := .of_not_mem rfl (by decide)
  have w1 := w0.answered (.replaced rfl (.inr rfl) fresh ⟨rfl, rfl, rfl⟩)
  have fresh' : Store.IsFresh (.accept (.ofVersion sampleRead) sampleStored) sampleLabelled :=
    .of_not_mem rfl (by decide)
  have w2 := w1.edited fresh'
  have w3 := w2.answered (.notNoted (.refused "the object has been modified" "Conflict" 409))
  obtain ⟨chained, settles⟩ := write_settles revises w3
  exact ⟨_, _, _, revises, w3, rfl, rfl, chained, settles _ rfl⟩

/-- The machine when it is deleted, with a finalizer. -/
def sampleDeleted : Kind.infraMachine.Object :=
  { sampleRead with
    metadata := { sampleRead.metadata with
      finalizers := some [InfraMachine.finalizer], deletionTimestamp := some default } }

/-- An answer that an object does not exist is believed, also when the object exists and keeps its
finalizer. -/
theorem succeeded_without_write : ∃ store deeds,
    Writing "default" "gpu-0" sampleDeleted (sampleDeleted.removeFinalizer InfraMachine.finalizer)
        store deeds (.done (.ok ())) ∧
      Deed.AllRefused deeds ∧ store.current = some sampleDeleted ∧
      ¬ sampleDeleted.Agrees (sampleDeleted.removeFinalizer InfraMachine.finalizer) := by
  have w0 : Writing "default" "gpu-0" sampleDeleted
      (sampleDeleted.removeFinalizer InfraMachine.finalizer) (.ofVersion sampleDeleted) [] _ :=
    .begins (.ofVersion rfl) (List.mem_singleton_self _)
  have w1 := w0.answered (.notReplaced (.refused "not served here" "NotFound" 404))
  refine ⟨_, _, w1, Deed.allRefused_singleton _ _, rfl, ?_⟩
  intro agrees
  exact absurd agrees.finalizers (by decide)

end Controller

end MachineProvider
