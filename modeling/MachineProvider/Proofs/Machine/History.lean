import MachineProvider.Proofs.Machine.Progress
import MachineProvider.Proofs.Store

/-!
# Histories of a machine

A machine lives on the API server. The controller runs for it again and again, one run at a time,
and between any two steps of a run other clients may write the machine too: they change what they
like, but neither the provider ID nor the finalizer of the controller. Everything that a run is
answered, apart from what the API server says about the machine, is arbitrary. A history lists what
happened, the last thing first.
-/

namespace MachineProvider.InfraMachine

/-- Something that happened to a machine. -/
inductive Occurrence where
  /-- A run of the controller began. -/
  | began (config : Config)
  /-- The run asked a question and was answered; a write may have stored a version. -/
  | exchanged (question : Controller.Question) (answer : Controller.Answer question)
    (stored : Option InfraMachine)
  /-- The run ended. -/
  | ended (result : Run)
  /-- Another client stored a version. -/
  | edited (version : InfraMachine)
  /-- The machine, which had no finalizers, was deleted by another client. -/
  | removed

/-- The instance that an answer brings into being. -/
def born : (q : Controller.Question) → Controller.Answer q → Option Instance
  | .service (.call (.createInstance _)), .finished (.ok i) => some i
  | _, _ => none

/-- The instances that were created, the last one first. -/
def created : List Occurrence → List Instance
  | [] => []
  | .exchanged q a _ :: past => (born q a).toList ++ created past
  | .began _ :: past => created past
  | .ended _ :: past => created past
  | .edited _ :: past => created past
  | .removed :: past => created past

/-- What the current run has learned. -/
def progress : List Occurrence → Progress
  | [] => {}
  | .exchanged q a _ :: past => (progress past).next q a
  | .began _ :: _ => {}
  | .ended _ :: _ => {}
  | .edited _ :: past => progress past
  | .removed :: past => progress past

/-- Whether the current run has created an instance and has stored nothing since. -/
def awaitsRecord : List Occurrence → Bool
  | [] => false
  | .exchanged q a stored :: past =>
    stored.isNone && ((born q a).isSome || awaitsRecord past)
  | .began _ :: _ => false
  | .ended _ :: _ => false
  | .edited _ :: past => awaitsRecord past
  | .removed :: past => awaitsRecord past

section Exchanged

variable (q : Controller.Question) (a : Controller.Answer q) (stored : Option InfraMachine)
  (past : List Occurrence)

theorem created_exchanged :
    created (.exchanged q a stored :: past) = (born q a).toList ++ created past := rfl

theorem progress_exchanged :
    progress (.exchanged q a stored :: past) = (progress past).next q a := rfl

theorem awaitsRecord_exchanged :
    awaitsRecord (.exchanged q a stored :: past) =
      (stored.isNone && ((born q a).isSome || awaitsRecord past)) := rfl

end Exchanged

theorem created_append (later earlier : List Occurrence) :
    created (later ++ earlier) = created later ++ created earlier := by
  induction later with
  | nil => rfl
  | cons last rest ih =>
      cases last with
      | exchanged q a stored =>
          rw [List.cons_append, created_exchanged, created_exchanged, ih, List.append_assoc]
      | _ => exact ih

/-- Whether something holds for every exchange, given what its run had learned before. -/
def Throughout (holds : Progress → (q : Controller.Question) → Controller.Answer q → Prop) :
    List Occurrence → Prop
  | [] => True
  | .exchanged q a _ :: past => holds (progress past) q a ∧ Throughout holds past
  | .began _ :: past => Throughout holds past
  | .ended _ :: past => Throughout holds past
  | .edited _ :: past => Throughout holds past
  | .removed :: past => Throughout holds past

/-- Writes of a new provider ID succeed, at the latest when they are repeated. -/
def RecordsLand : List Occurrence → Prop :=
  Throughout Progress.Lands

/-- The runs for the deleted machine find its owners and set up a client for the cloud. -/
def CleanupsResolve : List Occurrence → Prop :=
  Throughout Progress.Resolves

/-- How the cloud answers: which instances may exist after an answer. Only the creation of an instance
adds one, an instance that was asked for is that instance, and what the cloud does not know or has
deleted does not exist. -/
def Hosts (before after : List String) : (q : Controller.Question) → Controller.Answer q → Prop
  | .service (.call (.createInstance _)), .finished (.ok i) =>
    i.id ≠ "" ∧ after ⊆ i.id :: before
  | .service (.call (.getInstance id)), .finished (.ok i) => i.id = id ∧ after ⊆ before
  | .service (.call (.getInstance id)), .finished (.error e) =>
    (e.isNotFound = true → id ∉ after) ∧ after ⊆ before
  | .service (.call (.deleteInstance id)), .finished (.ok ()) => id ∉ after ∧ after ⊆ before
  | .service (.call (.deleteInstance id)), .finished (.error e) =>
    (e.isNotFound = true → id ∉ after) ∧ after ⊆ before
  | _, _ => after ⊆ before

/-- The IDs of the instances that exist after a history. Instances may vanish at any time. -/
inductive CloudHistory : List Occurrence → List String → Prop
  | start (existing : List String) : CloudHistory [] existing
  | exchanged {past : List Occurrence} {before after : List String} {q : Controller.Question}
    {a : Controller.Answer q} {stored : Option InfraMachine} (earlier : CloudHistory past before)
    (hosts : Hosts before after q a) : CloudHistory (.exchanged q a stored :: past) after
  | began {past : List Occurrence} {before after : List String} {config : Config}
    (earlier : CloudHistory past before) (vanished : after ⊆ before) :
    CloudHistory (.began config :: past) after
  | ended {past : List Occurrence} {before after : List String} {result : Run}
    (earlier : CloudHistory past before) (vanished : after ⊆ before) :
    CloudHistory (.ended result :: past) after
  | edited {past : List Occurrence} {before after : List String} {v : InfraMachine}
    (earlier : CloudHistory past before) (vanished : after ⊆ before) :
    CloudHistory (.edited v :: past) after
  | removed {past : List Occurrence} {before after : List String}
    (earlier : CloudHistory past before) (vanished : after ⊆ before) :
    CloudHistory (.removed :: past) after

/-- The store after a version was written: a deleted machine without finalizers goes away. -/
def absorb (store : Store InfraMachine) (v : InfraMachine) : Store InfraMachine :=
  if v.metadata.isDeleted && v.metadata.finalizerList.isEmpty then (store.put v).remove
  else store.put v

/-- The store after an exchange, which may have stored a version. -/
def absorbAny (store : Store InfraMachine) : Option InfraMachine → Store InfraMachine
  | none => store
  | some v => absorb store v

/-- What the API server stores for a write of metadata and specification over a version: the status
stays, and the resource version and the generation are the server's own. -/
structure Replaces (cur o v : InfraMachine) : Prop where
  metadata : v.metadata = { o.metadata with
    resourceVersion := v.metadata.resourceVersion, generation := v.metadata.generation }
  spec : v.spec = o.spec
  status : v.status = cur.status

/-- What the API server stores for a write of the status over a version: only the status changes. -/
structure ReplacesStatus (cur o v : InfraMachine) : Prop where
  metadata : v.metadata = { cur.metadata with resourceVersion := v.metadata.resourceVersion }
  spec : v.spec = cur.spec
  status : v.status = o.status

/-- What another client stores over a version: the name, the provider ID and the finalizer of the
controller stay. -/
structure Edits (cur v : InfraMachine) : Prop where
  name : v.metadata.name = cur.metadata.name
  providerId : v.spec.providerId = cur.spec.providerId
  finalizer : cur.hasFinalizer finalizer = true → v.hasFinalizer finalizer = true

section Server

variable («namespace» name : String)

/-- Whether the API server stores a version for a write of the machine, which it does only over the
current version. -/
def Stores (store : Store InfraMachine) (n nm : String) (o v : InfraMachine)
    (replaces : InfraMachine → InfraMachine → InfraMachine → Prop) : Prop :=
  n = «namespace» ∧ nm = name ∧ store.Accepts o ∧ store.IsFresh v ∧
    ∀ cur, store.current = some cur → replaces cur o v

/-- How the API server answers, and which version it stores. A read gives the current version. A write
that is reported to have failed may have been carried out, unless it was rejected because the
machine has changed. Answers to other questions are arbitrary. -/
def Serves (store : Store InfraMachine) :
    (q : Controller.Question) → Controller.Answer q → Option InfraMachine → Prop
  | .fetch .infraMachine n nm, .ok m, stored =>
    n = «namespace» ∧ nm = name ∧ store.current = some m ∧ stored = none
  | .replace .infraMachine n nm o, .ok v, stored =>
    stored = some v ∧ Stores «namespace» name store n nm o v Replaces
  | .replace .infraMachine n nm o, .error e, stored =>
    ∀ v, stored = some v → e.hasCode 409 = false ∧ Stores «namespace» name store n nm o v Replaces
  | .replaceStatus .infraMachine n nm o, .ok (), stored =>
    ∃ v, stored = some v ∧ Stores «namespace» name store n nm o v ReplacesStatus
  | .replaceStatus .infraMachine n nm o, .error e, stored =>
    ∀ v, stored = some v →
      e.hasCode 409 = false ∧ Stores «namespace» name store n nm o v ReplacesStatus
  | _, _, stored => stored = none

/-- The machine as it is stored, and the run that is in progress. -/
structure Situation where
  store : Store InfraMachine
  running : Option (Controller Run)

/-- The histories of a machine, each with the situation that it leads to. -/
inductive History : List Occurrence → Situation → Prop
  | start {m : InfraMachine} (named : m.metadata.name = some name)
    (versioned : (version m).isSome = true) :
    History [] { store := .ofVersion m, running := none }
  | began {past : List Occurrence} {store : Store InfraMachine} (config : Config)
    (gzip : Gzip.Compressor) (before : History past { store, running := none }) :
    History (.began config :: past)
      { store, running := some (run (some «namespace») name config gzip) }
  | exchanged {past : List Occurrence} {store : Store InfraMachine} {q : Controller.Question}
    {next : Controller.Answer q → Controller Run} {a : Controller.Answer q}
    (before : History past { store, running := some (.ask q next) })
    (stored : Option InfraMachine) (served : Serves «namespace» name store q a stored) :
    History (.exchanged q a stored :: past)
      { store := absorbAny store stored, running := some (next a) }
  | ended {past : List Occurrence} {store : Store InfraMachine} {result : Run}
    (before : History past { store, running := some (.done result) }) :
    History (.ended result :: past) { store, running := none }
  | edited {past : List Occurrence} {s : Situation} {cur v : InfraMachine}
    (before : History past s) (stored : s.store.current = some cur) (edits : Edits cur v)
    (fresh : s.store.IsFresh v) :
    History (.edited v :: past) { s with store := absorb s.store v }
  | removed {past : List Occurrence} {s : Situation} {cur : InfraMachine}
    (before : History past s) (stored : s.store.current = some cur)
    (free : cur.metadata.finalizerList = []) :
    History (.removed :: past) { s with store := s.store.remove }

end Server

end MachineProvider.InfraMachine
