import Mathlib.Data.List.Infix
import Mathlib.Logic.Function.Basic
import Mathlib.Logic.Relation
import MachineProvider.Proofs.Cloud.Visit

/-!
# Clones that share a token

The clones of a client share one token, which only one operation at a time takes hold of. Any number
of operations go on side by side: each waits for the token and for the responses to its requests,
whatever the responses are and whatever the clock shows, and it may be dropped at any point. What
they do is logged. Every log is orderly (`Client.Reachable.isOrderly`): the shared token is the one
of the latest authentication that succeeded, each request is sent with what its operation found or
was granted when it held the token, and no two operations authenticate at once.
-/

namespace MachineProvider.Client

open Procedure Relation

/-- Where an operation is. -/
inductive Flight where
  | goes (rest : Procedure Question Answer Unit)
  /-- It has sent a request and waits for the response. -/
  | waits (request : HttpRequest)
    (next : Except String HttpResponse → Procedure Question Answer Unit)

/-- An operation does something, and may take hold of the shared token when nobody else holds it. -/
inductive Flight.Goes (cached : Option Token) (free : Prop) : Flight → Deed → Flight → Prop
  | takes {next : Option Token → Procedure Question Answer Unit} (isFree : free) :
    Goes cached free (.goes (.ask .takeToken next)) (.takes cached) (.goes (next cached))
  | puts {fresh : Option Token} {next : Unit → Procedure Question Answer Unit} :
    Goes cached free (.goes (.ask (.putToken fresh) next)) (.puts fresh) (.goes (next ()))
  | reads {next : Timestamp → Procedure Question Answer Unit} (now : Timestamp) :
    Goes cached free (.goes (.ask .now next)) (.reads now) (.goes (next now))
  | sends {request : HttpRequest}
    {next : Except String HttpResponse → Procedure Question Answer Unit} :
    Goes cached free (.goes (.ask (.exchange request) next)) (.sends request)
      (.waits request next)
  | hears {request : HttpRequest}
    {next : Except String HttpResponse → Procedure Question Answer Unit}
    (answer : Except String HttpResponse) :
    Goes cached free (.waits request next) (.hears answer) (.goes (next answer))

/-- A list of deeds, each with the number of its operation, the last one first. -/
abbrev Log := List (Nat × Deed)

namespace Log

/-- The deeds of an operation. -/
def own (log : Log) (i : Nat) : List Deed :=
  (log.filter (·.1 = i)).map (·.2)

/-- What had been logged when an operation had done its last deed so far. -/
def upTo (log : Log) (i : Nat) : Log :=
  log.dropWhile (·.1 ≠ i)

/-- The token that was put in place of another one last. -/
def latest : Log → Option Token
  | [] => none
  | (_, .puts (some fresh)) :: _ => some fresh
  | _ :: earlier => latest earlier

variable {log : Log} {i j : Nat} {deed : Deed}

@[simp] theorem own_cons_self : own ((i, deed) :: log) i = deed :: own log i := by
  simp [own]

theorem own_cons_of_ne (differ : j ≠ i) : own ((i, deed) :: log) j = own log j := by
  simp [own, differ.symm]

@[simp] theorem upTo_cons_self : upTo ((i, deed) :: log) i = (i, deed) :: log := by
  simp [upTo]

theorem upTo_cons_of_ne (differ : j ≠ i) : upTo ((i, deed) :: log) j = upTo log j := by
  simp [upTo, differ.symm]

@[simp] theorem latest_puts (fresh : Option Token) :
    latest ((i, .puts fresh) :: log) = (fresh <|> latest log) := by
  cases fresh <;> rfl

end Log

/-- What the clones of a client share, and their operations. -/
structure Clones where
  /-- The shared token. -/
  cached : Option Token := none
  /-- The operation that holds the token. -/
  holder : Option Nat := none
  /-- What the operations that have begun are asked for. -/
  call : Nat → Option Call := fun _ => none
  /-- Where the operations are that are not over. -/
  flight : Nat → Option Flight := fun _ => none
  log : Log := []

namespace Clones

/-- The clones of a client that has been set up. -/
def start : Clones where

/-- What a deed changes for all operations. -/
def after (s : Clones) (i : Nat) : Deed → Clones
  | .takes _ => { s with holder := some i }
  | .puts fresh => { s with cached := fresh <|> s.cached, holder := none }
  | _ => s

/-- What it is like after a deed of an operation. -/
def acted (s : Clones) (i : Nat) (f : Flight) (deed : Deed) : Clones :=
  { s.after i deed with flight := Function.update s.flight i (some f)
                        log := (i, deed) :: s.log }

/-- What happens next. -/
inductive Step (c : Client) : Clones → Clones → Prop
  | begins {s : Clones} {i : Nat} (call : Call) (isNew : s.call i = none) :
    Step c s { s with call := Function.update s.call i (some call)
                      flight := Function.update s.flight i (some (.goes (call.run c))) }
  | acts {s : Clones} {i : Nat} {f f' : Flight} {deed : Deed} (current : s.flight i = some f)
    (goes : f.Goes s.cached (s.holder = none) deed f') :
    Step c s (s.acted i f' deed)
  | ends {s : Clones} {i : Nat} (current : s.flight i = some (.goes (.done ()))) :
    Step c s { s with flight := Function.update s.flight i none }
  /-- An operation is dropped and lets go of the token. -/
  | drops {s : Clones} {i : Nat} :
    Step c s { s with flight := Function.update s.flight i none
                      holder := if s.holder = some i then none else s.holder }

end Clones

/-- What may become of the clones of a client. -/
def Reachable (c : Client) (s : Clones) : Prop :=
  ReflTransGen (Clones.Step c) Clones.start s

/-- Whether all that was done with the token is in order. -/
structure Clones.IsOrderly (c : Client) (s : Clones) : Prop where
  /-- An operation found the token of the latest authentication that had succeeded. -/
  takes : ∀ i found earlier, (i, .takes found) :: earlier <:+ s.log → found = Log.latest earlier
  /-- An operation put a new token in place exactly when its authentication had succeeded. -/
  puts : ∀ i fresh earlier, (i, .puts fresh) :: earlier <:+ s.log →
    ∀ token, fresh = some token ↔ Succeeds c (Log.own earlier i) token
  /-- An operation sent a request for a token when it could not use the token in its hands. Any
  other request it sent right after a visit of its own, with the value of the token that was the
  latest one at the end of the visit. -/
  sends : ∀ i request earlier, (i, .sends request) :: earlier <:+ s.log →
    (c.tokenRequest = .ok request ∧
      ∃ look : Look, look.deeds <+: Log.own earlier i ∧ look.IsThorough ∧ look.IsStale) ∨
    ∃ (visit : Visit) (token : Token), visit.deeds <+: Log.own earlier i ∧ visit.IsLawful c ∧
      visit.token = some token ∧ Log.latest (Log.upTo earlier i) = some token ∧
      request.bearer = some token.value
  /-- An operation that found a token that it could use put it back at once. -/
  live : ∀ i deed earlier, (i, deed) :: earlier <:+ s.log → ∀ t now,
    [.reads now, .takes (some t)] <+: Log.own earlier i → t.value ≠ "" →
    now.isBefore t.expiresAt = true → deed = .puts none
  /-- An operation that failed to authenticate did nothing after that. -/
  failed : ∀ i deed earlier, (i, deed) :: earlier <:+ s.log → ¬ HasFailed (Log.own earlier i)
  /-- The shared token is the one of the latest authentication that succeeded. -/
  cached : s.cached = Log.latest s.log
  /-- No two operations authenticate at once. -/
  single : ∀ i j request request' next next', s.flight i = some (.waits request next) →
    s.flight j = some (.waits request' next') → c.tokenRequest = .ok request →
    c.tokenRequest = .ok request' → i = j
  /-- An operation sent one request of its own at most, and two when it created an instance. -/
  few : ∀ i call, s.call i = some call → requests (Log.own s.log i) ≤ call.most
  /-- Operations on load balancers do nothing at all. -/
  silent : ∀ i call, s.call i = some call → call.isAboutLoadBalancer = true →
    Log.own s.log i = []

section Flights

variable {c : Client} {most : Nat} {cached : Option Token} {free : Prop} {f f' : Flight}
  {deed : Deed} {done : List Deed}

/-- Whether what is left of an operation keeps to the protocol. -/
def Flight.IsSound (c : Client) (most : Nat) (done : List Deed) : Flight → Prop
  | .goes rest => rest.Follows (c.protocol most) (fun _ after => held after = none) done
  | .waits request next => ∃ before, done = .sends request :: before ∧
      (c.protocol most).may before (.exchange request) ∧
      ∀ answer, (next answer).Follows (c.protocol most) (fun _ after => held after = none)
        (.hears answer :: done)

/-- Whether a deed may come after others. -/
def MayDo (c : Client) (most : Nat) (cached : Option Token) (free : Prop) (done : List Deed) :
    Deed → Prop
  | .takes found => free ∧ found = cached ∧ (c.protocol most).may done .takeToken
  | .puts fresh => (c.protocol most).may done (.putToken fresh)
  | .reads _ => (c.protocol most).may done .now
  | .sends request => (c.protocol most).may done (.exchange request)
  | .hears _ => ∃ request before, done = .sends request :: before ∧
      (c.protocol most).may before (.exchange request)

theorem Flight.Goes.sound (h : f.Goes cached free deed f') (sound : f.IsSound c most done) :
    MayDo c most cached free done deed ∧ f'.IsSound c most (deed :: done) := by
  cases h with
  | takes isFree => exact ⟨⟨isFree, rfl, sound.1⟩, sound.2 _ trivial⟩
  | puts => exact ⟨sound.1, sound.2 () trivial⟩
  | reads now => exact ⟨sound.1, sound.2 now trivial⟩
  | sends => exact ⟨sound.1, _, rfl, sound.1, fun answer => sound.2 answer trivial⟩
  | hears answer =>
      obtain ⟨before, rfl, may, rest⟩ := sound
      exact ⟨⟨_, before, rfl, may⟩, rest answer⟩

theorem requests_cons_of_may (may : MayDo c most cached free done deed)
    (few : requests done ≤ most) : requests (deed :: done) ≤ most := by
  cases deed with
  | sends request =>
      rcases may with ⟨built, -⟩ | ⟨more, -⟩
      · rw [requests, List.countP_cons_of_neg]
        · exact few
        · simp [Deed.isRequest, bearer_of_requestTo built]
      · apply Nat.le_trans _ more
        rw [requests, List.countP_cons]
        split <;> simp [requests]
  | _ => exact few

theorem MayDo.mono {free' : Prop}
    (may : MayDo c most cached free done deed) (weaker : free → free') :
    MayDo c most cached free' done deed := by
  cases deed with
  | takes found => exact ⟨weaker may.1, may.2⟩
  | _ => exact may

end Flights

namespace Clones

/-- Whether everything is as the protocol makes it. -/
structure IsSound (c : Client) (s : Clones) : Prop where
  cached : s.cached = Log.latest s.log
  unborn : ∀ i, s.call i = none → Log.own s.log i = []
  flights : ∀ i f, s.flight i = some f →
    ∃ call, s.call i = some call ∧ f.IsSound c call.most (Log.own s.log i)
  /-- What an operation found it still has in its hands, as it is. -/
  holder : ∀ i f found, s.flight i = some f → held (Log.own s.log i) = some found →
    s.holder = some i ∧ s.cached = found
  visits : ∀ i (visit : Visit), visit.IsLawful c → visit.deeds <+: Log.own s.log i →
    Log.latest (Log.upTo s.log i) = visit.token
  few : ∀ i call, s.call i = some call → requests (Log.own s.log i) ≤ call.most
  silent : ∀ i call, s.call i = some call → call.isAboutLoadBalancer = true →
    Log.own s.log i = [] ∧ ∀ f, s.flight i = some f → f = .goes (.done ())
  fits : ∀ i deed earlier, (i, deed) :: earlier <:+ s.log →
    (∃ most, MayDo c most (Log.latest earlier) True (Log.own earlier i) deed) ∧
    ∀ visit : Visit, visit.IsLawful c → visit.deeds <+: Log.own earlier i →
      Log.latest (Log.upTo earlier i) = visit.token

section Acts

variable {c : Client} {s : Clones} {i j : Nat} {f f' : Flight} {deed : Deed} {most : Nat}

@[simp] theorem call_acted : (s.acted i f deed).call = s.call := by
  cases deed <;> rfl

@[simp] theorem flight_acted :
    (s.acted i f deed).flight = Function.update s.flight i (some f) := rfl

theorem current_acted : (s.acted i f deed).flight i = some f :=
  Function.update_self ..

@[simp] theorem log_acted : (s.acted i f deed).log = (i, deed) :: s.log := rfl

theorem isSound_start : IsSound c start where
  cached := rfl
  unborn _ _ := rfl
  flights _ _ current := nomatch current
  holder _ _ _ current := nomatch current
  visits _ _ _ visited := absurd (List.prefix_nil.mp visited) nofun
  few _ _ called := nomatch called
  silent _ _ called := nomatch called
  fits _ _ _ logged := absurd (List.suffix_nil.mp logged) nofun

/-- A deed that may be done with the shared token leaves it the latest one. -/
theorem IsSound.cached_after (h : s.IsSound c) :
    (s.after i deed).cached = Log.latest ((i, deed) :: s.log) := by
  cases deed with
  | puts fresh =>
      rw [Log.latest_puts, ← h.cached]
      rfl
  | _ => exact h.cached

/-- Nobody else does anything with the token while an operation has it in its hands. -/
theorem IsSound.holder_after (h : s.IsSound c) (current : s.flight i = some f)
    (may : MayDo c most s.cached (s.holder = none) (Log.own s.log i) deed) {g : Flight}
    {found : Option Token} (flies : Function.update s.flight i (some f') j = some g)
    (holds : held (Log.own ((i, deed) :: s.log) j) = some found) :
    (s.after i deed).holder = some j ∧ (s.after i deed).cached = found := by
  by_cases same : j = i
  · subst same
    rw [Log.own_cons_self] at holds
    cases deed with
    | takes _ =>
        obtain ⟨-, rfl, -⟩ := may
        exact ⟨rfl, Option.some.inj holds⟩
    | puts _ => cases holds
    | _ => exact h.holder j f found current holds
  · rw [Function.update_of_ne same] at flies
    rw [Log.own_cons_of_ne same] at holds
    obtain ⟨holder, cached⟩ := h.holder j g found flies holds
    cases deed with
    | takes _ =>
        rw [may.1] at holder
        cases holder
    | puts _ =>
        obtain ⟨other, eq⟩ := Option.isSome_iff_exists.mp may.1
        rw [(h.holder i f other current eq).1] at holder
        exact absurd (Option.some.inj holder).symm same
    | _ => exact ⟨holder, cached⟩

/-- A visit ends with the latest token. -/
theorem IsSound.visits_after (h : s.IsSound c) (current : s.flight i = some f) {visit : Visit}
    (lawful : visit.IsLawful c) (visited : visit.deeds <+: Log.own ((i, deed) :: s.log) j) :
    Log.latest (Log.upTo ((i, deed) :: s.log) j) = visit.token := by
  by_cases same : j = i
  · subst same
    rw [Log.own_cons_self] at visited
    obtain ⟨rfl, rest⟩ := List.cons_prefix_cons.mp visited
    rw [Log.upTo_cons_self, Log.latest_puts]
    obtain ⟨look, renewal⟩ := visit
    cases renewal with
    | some r => rfl
    | none =>
        have found := h.holder j f look.found current (held_of_look rest)
        rw [← h.cached]
        exact found.2
  · rw [Log.own_cons_of_ne same] at visited
    rw [Log.upTo_cons_of_ne same]
    exact h.visits j visit lawful visited

/-- What an operation does next keeps everything as the protocol makes it. -/
theorem IsSound.acts (h : s.IsSound c) (current : s.flight i = some f)
    (goes : f.Goes s.cached (s.holder = none) deed f') :
    IsSound c (s.acted i f' deed) := by
  obtain ⟨call, called, sound⟩ := h.flights i f current
  obtain ⟨may, sound'⟩ := goes.sound sound
  refine {
    cached := h.cached_after
    unborn := ?_
    flights := ?_
    holder := fun j g found flies holds => h.holder_after current may flies holds
    visits := fun j visit lawful visited => h.visits_after current lawful visited
    few := ?_
    silent := ?_
    fits := ?_ }
  · intro j unborn
    rw [call_acted] at unborn
    have differ : j ≠ i := by
      rintro rfl
      cases called.symm.trans unborn
    rw [log_acted, Log.own_cons_of_ne differ]
    exact h.unborn j unborn
  · intro j g flies
    rw [flight_acted] at flies
    rw [call_acted, log_acted]
    by_cases same : j = i
    · subst same
      rw [Function.update_self] at flies
      cases flies
      rw [Log.own_cons_self]
      exact ⟨call, called, sound'⟩
    · rw [Function.update_of_ne same] at flies
      rw [Log.own_cons_of_ne same]
      exact h.flights j g flies
  · intro j other calls
    rw [call_acted] at calls
    rw [log_acted]
    by_cases same : j = i
    · subst same
      cases called.symm.trans calls
      rw [Log.own_cons_self]
      exact requests_cons_of_may may (h.few j call called)
    · rw [Log.own_cons_of_ne same]
      exact h.few j other calls
  · intro j other calls about
    rw [call_acted] at calls
    obtain ⟨nothing, ended⟩ := h.silent j other calls about
    have differ : j ≠ i := by
      rintro rfl
      rw [ended f current] at goes
      cases goes
    rw [log_acted, flight_acted, Log.own_cons_of_ne differ, Function.update_of_ne differ]
    exact ⟨nothing, ended⟩
  · intro j other earlier logged
    rcases List.suffix_cons_iff.mp logged with last | before
    · cases last
      refine ⟨⟨call.most, ?_⟩, h.visits i⟩
      rw [← h.cached]
      exact MayDo.mono may fun _ => trivial
    · exact h.fits j other earlier before

/-- What is replaced for one operation stays the same for the others. -/
theorem of_update {β : Type} {g : Nat → β} {v x : β} (differ : j ≠ i)
    (h : Function.update g i v j = x) : g j = x := by
  rwa [Function.update_of_ne differ] at h

theorem of_update_self {β : Type} {g : Nat → β} {v x : β} (h : Function.update g i v i = x) :
    v = x := by
  rwa [Function.update_self] at h

/-- An operation that begins has done nothing yet. -/
theorem IsSound.begins (h : s.IsSound c) (call : Call) (isNew : s.call i = none) :
    IsSound c { s with call := Function.update s.call i (some call)
                       flight := Function.update s.flight i (some (.goes (call.run c))) } := by
  have nothing := h.unborn i isNew
  refine { h with unborn := ?_, flights := ?_, holder := ?_, few := ?_, silent := ?_ }
  · intro j unborn
    by_cases same : j = i
    · exact same ▸ nothing
    · exact h.unborn j (of_update same unborn)
  · intro j f flies
    by_cases same : j = i
    · subst same
      cases of_update_self flies
      rw [nothing]
      exact ⟨call, Function.update_self .., call.follows_run c⟩
    · obtain ⟨other, called, sound⟩ :=
        h.flights j f (of_update same flies)
      exact ⟨other, (Function.update_of_ne same _ _).trans called, sound⟩
  · intro j f found flies holds
    by_cases same : j = i
    · subst same
      rw [nothing] at holds
      cases holds
    · exact h.holder j f found (of_update same flies) holds
  · intro j other calls
    by_cases same : j = i
    · subst same
      rw [nothing]
      exact Nat.zero_le _
    · exact h.few j other (of_update same calls)
  · intro j other calls about
    by_cases same : j = i
    · subst same
      cases of_update_self calls
      refine ⟨nothing, fun f flies => ?_⟩
      cases of_update_self flies
      rw [call.run_of_isAboutLoadBalancer about]
    · obtain ⟨still, ended⟩ :=
        h.silent j other (of_update same calls) about
      exact ⟨still, fun f flies => ended f (of_update same flies)⟩

/-- An operation that is gone leaves the others as they are. -/
theorem IsSound.leaves (h : s.IsSound c) {holder : Option Nat}
    (others : ∀ j, j ≠ i → s.holder = some j → holder = some j) :
    IsSound c { s with flight := Function.update s.flight i none, holder } := by
  have flown {j : Nat} {f : Flight} (flies : Function.update s.flight i none j = some f) :
      j ≠ i ∧ s.flight j = some f := by
    by_cases same : j = i
    · subst same
      cases of_update_self flies
    · exact ⟨same, of_update same flies⟩
  refine { h with flights := ?_, holder := ?_, silent := ?_ }
  · intro j f flies
    exact h.flights j f (flown flies).2
  · intro j f found flies holds
    obtain ⟨differ, flew⟩ := flown flies
    obtain ⟨holds, cached⟩ := h.holder j f found flew holds
    exact ⟨others j differ holds, cached⟩
  · intro j call called about
    obtain ⟨nothing, ended⟩ := h.silent j call called about
    exact ⟨nothing, fun f flies => ended f (flown flies).2⟩

theorem IsSound.next {s' : Clones} (h : s.IsSound c) (step : Step c s s') : s'.IsSound c := by
  cases step with
  | begins call isNew => exact h.begins call isNew
  | acts current goes => exact h.acts current goes
  | ends current => exact h.leaves fun _ _ holds => holds
  | @drops i =>
      apply h.leaves
      intro j differ holds
      rw [if_neg, holds]
      rw [holds]
      exact fun same => differ (Option.some.inj same)

theorem isSound_of_reachable (h : Reachable c s) : s.IsSound c := by
  induction h with
  | refl => exact isSound_start
  | tail _ step ih => exact ih.next step

end Acts

end Clones

section Orderly

variable {c : Client} {s : Clones} {most : Nat} {cached : Option Token} {free : Prop}
  {deed : Deed} {done : List Deed}

theorem MayDo.not_hasFailed (may : MayDo c most cached free done deed) : ¬ HasFailed done := by
  cases deed with
  | takes found => exact not_hasFailed_of_may may.2.2
  | hears answer =>
      obtain ⟨request, before, rfl, -⟩ := may
      rintro ⟨look, attempt, -, -, start⟩
      exact absurd (List.cons_prefix_cons.mp start).1 nofun
  | _ => exact not_hasFailed_of_may may

/-- A token that can be used is put back at once. -/
theorem MayDo.eq_puts {t : Token} {now : Timestamp} (may : MayDo c most cached free done deed)
    (looked : [.reads now, .takes (some t)] <+: done) (filled : t.value ≠ "")
    (early : now.isBefore t.expiresAt = true) : deed = .puts none := by
  obtain ⟨before, rfl⟩ := looked
  let look : Look := ⟨some t, some now⟩
  cases deed with
  | takes found =>
      obtain nothing | ⟨_, _, _, idle, -⟩ := may.2.2
      · cases nothing
      · cases idle
  | puts fresh =>
      cases fresh with
      | none => rfl
      | some token =>
          have success : Succeeds c (look.deeds ++ before) token := (may.2 token).mp rfl
          exact absurd success (not_succeeds_look token)
  | reads again => exact absurd rfl (may.2 now _)
  | sends request =>
      rcases may with ⟨-, other, ⟨before', same⟩, -, stale⟩ | ⟨-, visit, _, ⟨_, visited⟩, -⟩
      · have again : look.deeds ++ before = [] ++ (other.deeds ++ before') := same.symm
        obtain ⟨found, readings⟩ := eq_of_look (fun _ => List.not_mem_nil) again
        rcases stale.of_le found readings with empty | ⟨_, ⟨⟩, late⟩
        · exact absurd empty filled
        · rw [late] at early
          cases early
      · cases (List.cons.inj visited).1
  | hears answer =>
      obtain ⟨_, _, sent, -⟩ := may
      cases sent

/-- An operation that waits for a token to be granted holds the shared one. -/
theorem Clones.IsSound.holder_of_waits (h : s.IsSound c) {i : Nat} {request : HttpRequest}
    {next : Except String HttpResponse → Procedure Question Answer Unit}
    (waits : s.flight i = some (.waits request next)) (built : c.tokenRequest = .ok request) :
    s.holder = some i := by
  obtain ⟨call, -, before, done, may, -⟩ := h.flights i _ waits
  rcases may with ⟨-, look, looked, -, -⟩ | ⟨-, _, _, -, -, -, bearer⟩
  · apply (h.holder i _ look.found waits _).1
    rw [done]
    change held before = _
    exact held_of_look looked
  · rw [bearer_of_requestTo built] at bearer
    cases bearer

/-- Whatever operations the clones of a client begin, in whatever order these go on, whatever the
clock shows and whatever the responses are, what they do with the token is in order. -/
theorem Reachable.isOrderly (h : Reachable c s) : s.IsOrderly c := by
  have sound := Clones.isSound_of_reachable h
  refine {
    cached := sound.cached
    few := sound.few
    silent := fun i call called about => (sound.silent i call called about).1
    takes := ?_
    puts := ?_
    sends := ?_
    live := ?_
    failed := ?_
    single := ?_ }
  · intro i found earlier logged
    obtain ⟨⟨_, may⟩, -⟩ := sound.fits i _ earlier logged
    exact may.2.1
  · intro i fresh earlier logged
    obtain ⟨⟨_, may⟩, -⟩ := sound.fits i _ earlier logged
    exact may.2
  · intro i request earlier logged
    obtain ⟨⟨_, may⟩, visits⟩ := sound.fits i _ earlier logged
    rcases may with authenticates | ⟨-, visit, token, visited, lawful, ends, bearer⟩
    · exact .inl authenticates
    · refine .inr ⟨visit, token, visited, lawful, ends, ?_, bearer⟩
      rw [visits visit lawful visited, ends]
  · intro i deed earlier logged t now looked filled early
    obtain ⟨⟨_, may⟩, -⟩ := sound.fits i _ earlier logged
    exact may.eq_puts looked filled early
  · intro i deed earlier logged
    obtain ⟨⟨_, may⟩, -⟩ := sound.fits i _ earlier logged
    exact may.not_hasFailed
  · intro i j request request' next next' waits waits' built built'
    have holder := sound.holder_of_waits waits built
    rw [sound.holder_of_waits waits' built'] at holder
    exact (Option.some.inj holder).symm

end Orderly

section Sample

variable {c : Client} {s : Clones} {i : Nat}

/-- An operation that finds no token authenticates while the others do nothing. -/
theorem Reachable.authenticates (h : Reachable c s)
    {k : Ended String → Procedure Question Answer Unit} {request : HttpRequest}
    {response : HttpResponse} {grant : Message.TokenGrant} {now : Timestamp} {t : Token}
    (current : s.flight i = some (.goes (Procedure.bind c.bearer k))) (free : s.holder = none)
    (cached : s.cached = none) (built : c.tokenRequest = .ok request)
    (grants : granted response = .ok grant) (value : grant.accessToken = t.value)
    (dates : Token.expiry? now grant.expiresIn = some t.expiresAt) :
    ∃ s', Reachable c s' ∧
      s'.flight = Function.update s.flight i (some (.goes (k (.finished (.ok t.value))))) ∧
      s'.cached = some t ∧ s'.holder = none ∧
      s'.log = (i, .puts (some t)) :: (i, .reads now) :: (i, .hears (.ok response)) ::
        (i, .sends request) :: (i, .takes none) :: s.log := by
  have takes : Flight.Goes s.cached (s.holder = none) (.goes (c.bearer.bind k)) (.takes none)
      (.goes (c.authenticate.bind k)) := by
    rw [cached]
    exact .takes free
  have taken := h.tail (.acts current takes)
  rw [authenticate_of_built built] at taken
  have sent := taken.tail (.acts Clones.current_acted .sends)
  have heard := sent.tail (.acts Clones.current_acted (.hears (.ok response)))
  have asks : (afterResponse (.ok response)).bind k =
      .ask .now fun now => (afterGrant grant now).bind k := by
    rw [afterResponse_of_granted grants]
    rfl
  rw [asks] at heard
  have read := heard.tail (.acts Clones.current_acted (.reads now))
  have puts : (afterGrant grant now).bind k =
      .ask (.putToken (some t)) fun () => k (.finished (.ok t.value)) := by
    rw [afterGrant_of_dated dates, value]
    rfl
  rw [puts] at read
  have done := read.tail (.acts Clones.current_acted .puts)
  refine ⟨_, done, ?_, rfl, rfl, rfl⟩
  simp only [Clones.flight_acted, Function.update_idem]

/-- An operation that finds a token that it can use puts it back. -/
theorem Reachable.reuses (h : Reachable c s) (now : Timestamp)
    {k : Ended String → Procedure Question Answer Unit} {t : Token}
    (current : s.flight i = some (.goes (Procedure.bind c.bearer k))) (free : s.holder = none)
    (cached : s.cached = some t) (filled : t.value ≠ "")
    (early : now.isBefore t.expiresAt = true) :
    ∃ s', Reachable c s' ∧
      s'.flight = Function.update s.flight i (some (.goes (k (.finished (.ok t.value))))) ∧
      s'.log = (i, .puts none) :: (i, .reads now) :: (i, .takes (some t)) :: s.log := by
  have looks : (afterTaking c (some t)).bind k =
      .ask .now fun now => (afterReading c t now).bind k := by
    rw [afterTaking_of_filled filled]
    rfl
  have takes : Flight.Goes s.cached (s.holder = none) (.goes (c.bearer.bind k)) (.takes (some t))
      (.goes ((afterTaking c (some t)).bind k)) := by
    rw [cached]
    exact .takes free
  have taken := h.tail (.acts current takes)
  rw [looks] at taken
  have read := taken.tail (.acts Clones.current_acted (.reads now))
  have puts : (afterReading c t now).bind k =
      .ask (.putToken none) fun () => k (.finished (.ok t.value)) := by
    rw [afterReading_of_early early]
    rfl
  rw [puts] at read
  have done := read.tail (.acts Clones.current_acted .puts)
  refine ⟨_, done, ?_, rfl⟩
  simp only [Clones.flight_acted, Function.update_idem]

/-- A client for the operations below. -/
def sample : Client where
  credentials := { clientId := "id", clientSecret := "secret" }
  baseUrl := "http://cloud/v1"

/-- A token for the first hour. -/
def hourly : Token where
  value := "abc"
  expiresAt := ⟨3600, 0⟩

/-- The response that grants it. -/
def hourGrant : HttpResponse where
  status := 200
  body := some "\x7b\"access_token\":\"abc\",\"expires_in\":3600\x7d".toUTF8

theorem exists_ok_of_isOk {ε α : Type} {x : Except ε α} (h : x.isOk = true) : ∃ a, x = .ok a := by
  cases x with
  | error e => cases h
  | ok a => exact ⟨a, rfl⟩

theorem granted_hourGrant : granted hourGrant = .ok ⟨"abc", none, 3600⟩ := by
  have known : (granted hourGrant).toOption = some ⟨"abc", none, 3600⟩ := by decide +kernel
  cases h : granted hourGrant with
  | error e =>
      rw [h] at known
      cases known
  | ok grant =>
      rw [h] at known
      cases known
      rfl

/-- Listing the images asks for a value and sends it. -/
theorem exists_run_listImages (c : Client) : ∃ k, Call.listImages.run c = c.bearer.bind k ∧
    ∀ value request, c.requestTo .get "/images" (some value) none = .ok request →
      ∃ next, k (.finished (.ok value)) = .ask (.exchange request) next := by
  refine ⟨_, (bind_bind _ _ _).trans (bind_bind _ _ _), fun value request built => ?_⟩
  dsimp only
  rw [built]
  exact ⟨_, rfl⟩

/-- Two operations ask for the images. The first one authenticates, and the other one sends the same
token without doing so. -/
theorem isOrderly_of_sample : ∃ (s : Clones) (request images : HttpRequest),
    sample.tokenRequest = .ok request ∧ images.bearer = some "abc" ∧ s.IsOrderly sample ∧
    s.log = [(1, .sends images), (1, .puts none), (1, .reads ⟨10, 0⟩), (1, .takes (some hourly)),
      (0, .sends images), (0, .puts (some hourly)), (0, .reads ⟨0, 0⟩),
      (0, .hears (.ok hourGrant)), (0, .sends request), (0, .takes none)] := by
  obtain ⟨request, built⟩ : ∃ request, sample.tokenRequest = .ok request :=
    exists_ok_of_isOk (by decide +kernel)
  obtain ⟨images, built'⟩ :
      ∃ images, sample.requestTo .get "/images" (some "abc") none = .ok images :=
    exists_ok_of_isOk (by decide +kernel)
  have dated : Token.expiry? ⟨0, 0⟩ 3600 = some ⟨3600, 0⟩ := by decide +kernel
  obtain ⟨k, run, sends⟩ := exists_run_listImages sample
  obtain ⟨next, sends⟩ := sends "abc" images built'
  have start : Reachable sample Clones.start := .refl
  have begun := (start.tail (.begins (i := 0) .listImages rfl)).tail
    (.begins (i := 1) .listImages rfl)
  rw [run] at begun
  obtain ⟨s, reached, flight, cached, free, log⟩ := Reachable.authenticates (i := 0) (t := hourly)
    begun rfl rfl rfl built granted_hourGrant rfl dated
  have ready : s.flight 0 = some (.goes (.ask (.exchange images) next)) := by
    rw [flight, Function.update_self]
    exact congrArg (fun p => some (Flight.goes p)) sends
  have sent := reached.tail (.acts ready .sends)
  have waits : (s.acted 0 (.waits images next) (.sends images)).flight 1 =
      some (.goes (sample.bearer.bind k)) := by
    rw [Clones.flight_acted, Function.update_of_ne (by decide), flight,
      Function.update_of_ne (by decide)]
    rfl
  obtain ⟨s', reached', flight', log'⟩ := Reachable.reuses sent ⟨10, 0⟩ waits free cached
    (by decide) (by decide)
  have ready' : s'.flight 1 = some (.goes (.ask (.exchange images) next)) := by
    rw [flight', Function.update_self]
    exact congrArg (fun p => some (Flight.goes p)) sends
  have last : Reachable sample _ := reached'.tail (.acts ready' .sends)
  refine ⟨_, request, images, built, bearer_of_requestTo built', last.isOrderly, ?_⟩
  rw [Clones.log_acted, log', Clones.log_acted, log]
  rfl

end Sample

end MachineProvider.Client
