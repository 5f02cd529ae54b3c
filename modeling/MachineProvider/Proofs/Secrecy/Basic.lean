import MachineProvider.Machine.Launch
import MachineProvider.Proofs.Credentials
import MachineProvider.Proofs.Machine.Release

/-!
# Services with one client secret and with another

What becomes of a client secret is seen by looking at two runs that have different ones and are
otherwise alike. A `SecretPair` says which client secrets these are, and what is alike then: data of
secrets, credentials, questions and answers. Two services match when they ask alike questions as
long as they get alike answers (`SecretPair.Matches`); this is put together from their parts
(`Matches.bind`). In surroundings that answer alike (`SecretPair.Resembles`) matching services have
matching results and do the same (`Matches.run`).
-/

namespace MachineProvider

namespace Credentials

variable {data data' : SecretData} {key text : String}

theorem requiredKey_of_holds (location : SecretLocation) (holds : Holds data key text)
    (filled : Text.isBlankText text = false) :
    requiredKey data key location = .ok (Text.trim text) := by
  rw [requiredKey_eq_ok, optionalKey_of_holds holds, filled]
  rfl

/-- Of all data only the value of the key counts. -/
theorem optionalKey_congr (location : SecretLocation) (same : data.get? key = data'.get? key) :
    optionalKey data key location = optionalKey data' key location := by
  unfold optionalKey
  rw [same]

theorem requiredKey_congr (location : SecretLocation) (same : data.get? key = data'.get? key) :
    requiredKey data key location = requiredKey data' key location := by
  unfold requiredKey
  rw [optionalKey_congr location same]

end Credentials

open Credentials

/-- Two texts for a client secret, neither of them blank. -/
structure SecretPair where
  one : String
  other : String
  one_filled : Text.isBlankText one = false
  other_filled : Text.isBlankText other = false

namespace SecretPair

variable (P : SecretPair)

/-- Data of secrets that differ in nothing but the client secret. -/
inductive AlikeData : SecretData → SecretData → Prop
  | same (data : SecretData) : AlikeData data data
  | swapped {data data' : SecretData} (one : Holds data clientSecretKey P.one)
    (other : Holds data' clientSecretKey P.other)
    (rest : ∀ key, key ≠ clientSecretKey → data.get? key = data'.get? key) : AlikeData data data'

/-- Credentials that differ in nothing but the client secret. -/
inductive AlikeCredentials : Credentials → Credentials → Prop
  | same (c : Credentials) : AlikeCredentials c c
  | swapped {c : Credentials} (one : c.clientSecret = Text.trim P.one) :
    AlikeCredentials c { c with clientSecret := Text.trim P.other }

/-- Questions that differ in nothing but the client secret. -/
inductive AlikeQuestions : Service.Question → Service.Question → Prop
  | same (q : Service.Question) : AlikeQuestions q q
  | connect {c c' : Credentials} (alike : P.AlikeCredentials c c') :
    AlikeQuestions (.connect c) (.connect c')

/-- Results of a request that differ in nothing but the client secret. -/
inductive AlikeResults :
    (r : Request) → Except r.Failure r.Success → Except r.Failure r.Success → Prop
  | same {r : Request} (result : Except r.Failure r.Success) : AlikeResults r result result
  | secret {purpose : SecretPurpose} {location : SecretLocation} {data data' : SecretData}
    (alike : P.AlikeData data data') :
    AlikeResults (.readSecret purpose location) (.ok (some data)) (.ok (some data'))

/-- Questions with their answers that differ in nothing but the client secret. -/
inductive AlikeExchanges : Exchange → Exchange → Prop
  | same (x : Exchange) : AlikeExchanges x x
  | connect {c c' : Credentials} (alike : P.AlikeCredentials c c')
    (answer : Except CloudError Unit) :
    AlikeExchanges ⟨.connect c, answer⟩ ⟨.connect c', answer⟩
  | call {r : Request} {result result' : Except r.Failure r.Success}
    (alike : P.AlikeResults r result result') :
    AlikeExchanges ⟨.call r, .finished result⟩ ⟨.call r, .finished result'⟩

/-- Services that ask alike questions as long as they get alike answers, and whose results are
related at the end. -/
inductive Matches {α : Type} (post : α → α → Prop) : Service α → Service α → Prop
  | done {result result' : α} (related : post result result') :
    Matches post (.done result) (.done result')
  | ask {q q' : Service.Question} {next : Service.Answer q → Service α}
    {next' : Service.Answer q' → Service α} (questions : P.AlikeQuestions q q')
    (rest : ∀ a a', P.AlikeExchanges ⟨q, a⟩ ⟨q', a'⟩ → Matches post (next a) (next' a')) :
    Matches post (.ask q next) (.ask q' next')

/-- Whether what a service asks, but for the client secret, and what its result is do not depend on
the client secret. -/
def Discreet {α : Type} (p : Service α) : Prop := P.Matches (· = ·) p p

variable {P}

theorem AlikeData.get?_of_ne {data data' : SecretData} (h : P.AlikeData data data') (key : String)
    (differ : key ≠ clientSecretKey) : data.get? key = data'.get? key := by
  cases h with
  | same => rfl
  | swapped _ _ rest => exact rest key differ

/-! ## Putting services together -/

section Services

variable {α β : Type} {post : α → α → Prop} {post' : β → β → Prop}

theorem Matches.bind {p p' : Service α} {f f' : α → Service β} (h : P.Matches post p p')
    (rest : ∀ a a', post a a' → P.Matches post' (f a) (f' a')) :
    P.Matches post' (p.bind f) (p'.bind f') := by
  induction h with
  | done related => exact rest _ _ related
  | ask questions _ ih => exact .ask questions ih

theorem discreet_done (result : α) : P.Discreet (.done result : Service α) := .done rfl

theorem Discreet.bind {p : Service α} {f : α → Service β} (h : P.Discreet p)
    (rest : ∀ a, P.Discreet (f a)) : P.Discreet (p.bind f) := by
  refine Matches.bind h ?_
  rintro a _ rfl
  exact rest a

/-- A question is discreet when alike answers to it are the same. -/
theorem discreet_ask {q : Service.Question} {next : Service.Answer q → Service α}
    (sameAnswer : ∀ a a', P.AlikeExchanges ⟨q, a⟩ ⟨q, a'⟩ → a = a')
    (rest : ∀ a, P.Discreet (next a)) : P.Discreet (.ask q next) := by
  refine .ask (.same q) fun a a' alike => ?_
  obtain rfl := sameAnswer a a' alike
  exact rest a

theorem discreet_publish (event : Event) : P.Discreet (Service.publish event) :=
  discreet_ask (fun _ _ _ => rfl) discreet_done

theorem discreet_now : P.Discreet Service.now := by
  refine discreet_ask (fun a a' alike => ?_) discreet_done
  cases alike
  rfl

/-- Requests to the cloud are discreet. -/
theorem discreet_call {r : Request} (deed : ∀ outcome, Exchange.isDeed ⟨.call r, outcome⟩ = true) :
    P.Discreet (Service.call r) := by
  refine discreet_ask (fun a a' alike => ?_) fun _ => discreet_done _
  cases alike with
  | same => rfl
  | call alike =>
    cases alike with
    | same => rfl
    | secret => cases deed (.refused .cancelled)

end Services

/-! ## Secrets -/

/-- Attempts to read credentials that fail for the same reason, or give credentials that differ in
nothing but the client secret. -/
inductive AlikeAttempts (P : SecretPair) :
    Except Error Credentials → Except Error Credentials → Prop
  | failed (e : Error) : AlikeAttempts P (.error e) (.error e)
  | made {c c' : Credentials} (alike : P.AlikeCredentials c c') : AlikeAttempts P (.ok c) (.ok c')

theorem AlikeAttempts.refl (attempt : Except Error Credentials) :
    AlikeAttempts P attempt attempt := by
  cases attempt with
  | error e => exact .failed e
  | ok c => exact .made (.same c)

/-- Alike data give alike credentials. -/
theorem AlikeData.ofSecret {data data' : SecretData} (h : P.AlikeData data data')
    (location : SecretLocation) :
    AlikeAttempts P (Credentials.ofSecret data location)
      (Credentials.ofSecret data' location) := by
  cases h with
  | same => exact .refl _
  | swapped one other rest =>
    unfold Credentials.ofSecret
    rw [requiredKey_of_holds location one P.one_filled,
      requiredKey_of_holds location other P.other_filled,
      requiredKey_congr location (rest clientIdKey (by decide)),
      optionalKey_congr location (rest baseUrlKey (by decide))]
    cases requiredKey data' clientIdKey location with
    | error e => exact .failed e
    | ok clientId =>
      cases optionalKey data' baseUrlKey location with
      | error e => exact .failed e
      | ok baseUrl => exact .made (.swapped rfl)

section Reading

variable (P) (purpose : SecretPurpose) (location : SecretLocation)

/-- Reading a secret gives alike results. -/
theorem matches_readSecret :
    P.Matches (P.AlikeResults (.readSecret purpose location))
      (Service.call (.readSecret purpose location))
      (Service.call (.readSecret purpose location)) := by
  refine .ask (.same _) fun a a' alike => .done ?_
  cases alike with
  | same => exact .same _
  | call alike =>
    cases alike with
    | same => exact .same _
    | secret alike => exact .secret alike

/-- Reading credentials gives alike ones or fails for the same reason. -/
theorem matches_credentialsAt :
    P.Matches (AlikeAttempts P) (Service.credentialsAt location)
      (Service.credentialsAt location) := by
  refine (P.matches_readSecret .credentials location).bind fun a a' alike => ?_
  cases alike with
  | same => rcases a with e | _ | data <;> exact .done (.refl _)
  | secret alike => exact .done (alike.ofSecret location)

/-- Setting up a client is discreet. -/
theorem discreet_connect : P.Discreet (Service.connect location) := by
  refine (P.matches_credentialsAt location).bind fun a a' alike => ?_
  cases alike with
  | failed e => exact discreet_done _
  | made alike =>
    refine .ask (.connect alike) fun answer answer' alike => ?_
    cases alike with
    | same | connect => cases answer <;> exact discreet_done _

/-- Reading the bootstrap data is discreet, also from the secret with the credentials. -/
theorem discreet_bootstrapData (compress : Bool) (gzip : Gzip.Compressor) :
    P.Discreet (bootstrapData location compress gzip) := by
  refine (P.matches_readSecret .bootstrapData location).bind fun a a' alike => ?_
  cases alike with
  | same =>
    rcases a with e | _ | data
    · exact discreet_done _
    · exact discreet_done _
    · dsimp only
      split <;> exact discreet_done _
  | secret alike =>
    -- a secret may serve both purposes, but the two keys differ
    dsimp only
    rw [alike.get?_of_ne bootstrapDataKey (by decide)]
    split <;> exact discreet_done _

end Reading

/-! ## Running services -/

section Running

variable {κ κ' : Type} {R : κ → κ' → Prop} {W : Surroundings κ} {W' : Surroundings κ'}

variable (P) in
/-- Surroundings that answer alike in worlds that are related, and stay related: the secrets differ
in nothing but the client secret, and the connector, the cloud and the clock say the same. -/
structure Resembles (R : κ → κ' → Prop) (W : Surroundings κ) (W' : Surroundings κ') : Prop where
  duration : ∀ {world world'}, R world world' → ∀ r instant,
    W.duration r instant world = W'.duration r instant world'
  results : ∀ {world world'}, R world world' → ∀ r instant,
    P.AlikeResults r (W.work r instant world).1 (W'.work r instant world').1
  worked : ∀ {world world'}, R world world' → ∀ r instant,
    R (W.work r instant world).2 (W'.work r instant world').2
  left : ∀ {world world'}, R world world' → ∀ r instant,
    R (W.leave r instant world) (W'.leave r instant world')
  connect : ∀ {world world'}, R world world' → ∀ {c c'}, P.AlikeCredentials c c' → ∀ instant,
    W.connect c instant world = W'.connect c' instant world'
  clock : ∀ {world world'}, R world world' → ∀ instant,
    W.clock instant world = W'.clock instant world'

variable (P) in
/-- Scenes at the same instant, with related worlds and alike exchanges so far. -/
structure AlikeScenes (R : κ → κ' → Prop) (s : Scene κ) (s' : Scene κ') : Prop where
  world : R s.world s'.world
  instant : s.instant = s'.instant
  log : List.Forall₂ P.AlikeExchanges s.log s'.log

variable {c : Conditions} {s : Scene κ} {s' : Scene κ'}

theorem Resembles.reply (like : P.Resembles R W W') {world : κ} {world' : κ'}
    (worlds : R world world') (r : Request) (instant : Nat) :
    P.AlikeResults r (W.reply c r instant world).1 (W'.reply c r instant world').1 ∧
      R (W.reply c r instant world).2 (W'.reply c r instant world').2 := by
  cases r with
  | readSecret purpose location =>
    unfold Surroundings.reply
    cases c.unreadable with
    | none => exact ⟨like.results worlds _ instant, like.worked worlds _ instant⟩
    | some e => exact ⟨.same _, worlds⟩
  | _ => exact ⟨like.results worlds _ instant, like.worked worlds _ instant⟩

/-- A call ends alike. -/
theorem Resembles.answer_call (like : P.Resembles R W W') {world : κ} {world' : κ'}
    (worlds : R world world') (r : Request) (instant : Nat) (log log' : List Exchange) :
    let after := W.answer c (.call r) { world, instant, log }
    let after' := W'.answer c (.call r) { world := world', instant, log := log' }
    P.AlikeExchanges ⟨.call r, after.1⟩ ⟨.call r, after'.1⟩ ∧ R after.2.world after'.2.world ∧
      after.2.instant = after'.2.instant := by
  obtain ⟨results, worked⟩ := like.reply (c := c) worlds r instant
  simp only [Surroundings.answer, ← like.duration worlds r instant]
  cases c.ending r.patience instant (W.duration r instant world) with
  | refused cause => exact ⟨.same _, worlds, trivial⟩
  | abandoned cause ended => exact ⟨.same _, like.left worlds r instant, trivial⟩
  | finished ended => exact ⟨.call results, worked, trivial⟩

/-- Alike questions get alike answers. -/
theorem Resembles.answer (like : P.Resembles R W W') (scenes : P.AlikeScenes R s s')
    {q q' : Service.Question} (questions : P.AlikeQuestions q q') :
    P.AlikeExchanges ⟨q, (W.answer c q s).1⟩ ⟨q', (W'.answer c q' s').1⟩ ∧
      P.AlikeScenes R (W.answer c q s).2 (W'.answer c q' s').2 := by
  obtain ⟨world, instant, log⟩ := s
  obtain ⟨world', instant', log'⟩ := s'
  obtain ⟨worlds, instants, logs⟩ := scenes
  cases instants
  have core : P.AlikeExchanges ⟨q, (W.answer c q ⟨world, instant, log⟩).1⟩
        ⟨q', (W'.answer c q' ⟨world', instant, log'⟩).1⟩ ∧
      R (W.answer c q ⟨world, instant, log⟩).2.world
        (W'.answer c q' ⟨world', instant, log'⟩).2.world ∧
      (W.answer c q ⟨world, instant, log⟩).2.instant =
        (W'.answer c q' ⟨world', instant, log'⟩).2.instant := by
    cases questions with
    | connect alike =>
      simp only [Surroundings.answer, ← like.connect worlds alike instant]
      exact ⟨.connect alike _, worlds, trivial⟩
    | same =>
      cases q with
      | call r => exact like.answer_call worlds r instant log log'
      | connect credentials =>
        simp only [Surroundings.answer, ← like.connect worlds (.same credentials) instant]
        exact ⟨.same _, worlds, trivial⟩
      | publish event => exact ⟨.same _, worlds, rfl⟩
      | now =>
        simp only [Surroundings.answer, ← like.clock worlds instant]
        exact ⟨.same _, worlds, trivial⟩
  obtain ⟨exchanges, worlds, instants⟩ := core
  refine ⟨exchanges, worlds, instants, ?_⟩
  rw [Surroundings.answer_log, Surroundings.answer_log]
  exact .cons exchanges logs

/-- Services that match have related results when they are run, and do the same but for the client
secret. -/
theorem Matches.run {α : Type} {post : α → α → Prop} {p p' : Service α} (h : P.Matches post p p')
    (like : P.Resembles R W W') (scenes : P.AlikeScenes R s s') :
    post (p.run (W.answer c) s).1 (p'.run (W'.answer c) s').1 ∧
      P.AlikeScenes R (p.run (W.answer c) s).2 (p'.run (W'.answer c) s').2 := by
  -- both runs go down their trees together, and the scenes stay alike
  induction h generalizing s s' with
  | done related => exact ⟨related, scenes⟩
  | ask questions _ ih =>
    obtain ⟨exchanges, next⟩ := like.answer (c := c) scenes questions
    exact ih _ _ exchanges next

/-- Requests to the cloud and events are the same in exchanges that are alike. -/
theorem AlikeExchanges.isDeed {x x' : Exchange} (h : P.AlikeExchanges x x') :
    (x.isDeed = false ∧ x'.isDeed = false) ∨ x = x' := by
  cases h with
  | same => exact .inr rfl
  | connect => exact .inl ⟨rfl, rfl⟩
  | call alike =>
    cases alike with
    | same => exact .inr rfl
    | secret => exact .inl ⟨rfl, rfl⟩

/-- Scenes that are alike have the same requests to the cloud and the same events. -/
theorem AlikeScenes.deeds (h : P.AlikeScenes R s s') : s.deeds = s'.deeds := by
  have filtered {log log' : List Exchange} (alike : List.Forall₂ P.AlikeExchanges log log') :
      log.filter (·.isDeed) = log'.filter (·.isDeed) := by
    induction alike with
    | nil => rfl
    | cons head _ ih =>
      rw [List.filter_cons, List.filter_cons, ih]
      rcases head.isDeed with ⟨quiet, quiet'⟩ | rfl
      · rw [quiet, quiet']
        rfl
      · rfl
  exact filtered h.log

end Running

end SecretPair

end MachineProvider
