import MachineProvider.Cloud.Client
import MachineProvider.Proofs.Discipline

/-!
# What an operation does with the token

An operation of a client takes hold of the shared token and looks at it (`Client.Look`). When it
can use what it found it puts that back; otherwise it authenticates (`Client.Renewal`) and puts a
new token in its place. Such a visit gives it the value that it sends along with one request;
`Client.Bears` lists how else it can end. The deeds of an operation are listed with the last one
first, and `Client.protocol` says what it may do after which deeds: it authenticates only with a
token in its hands that it cannot use, it sends a request of its own only right after a visit that
gave it a value, and an authentication that failed is the last thing that it does. Every operation
keeps to it (`Client.Call.follows_run`).
-/

namespace MachineProvider.Client

open Procedure

/-- Something that an operation does. -/
inductive Deed where
  /-- It takes hold of the token and sees what is there. -/
  | takes (found : Option Token)
  /-- It puts the token back, or a new one in its place. -/
  | puts (fresh : Option Token)
  | reads (now : Timestamp)
  | sends (request : HttpRequest)
  | hears (answer : Except String HttpResponse)

/-- The deeds that belong to a question and its answer, the last one first. -/
def deeds : (q : Question) → Answer q → List Deed
  | .takeToken, found => [.takes found]
  | .putToken fresh, () => [.puts fresh]
  | .now, now => [.reads now]
  | .exchange request, answer => [.hears answer, .sends request]

/-- The token that was found by an operation that still has it in its hands. -/
def held : List Deed → Option (Option Token)
  | [] => none
  | .takes found :: _ => some found
  | .puts _ :: _ => none
  | _ :: before => held before

/-- Whether a deed is to send a request with a token. -/
def Deed.isRequest : Deed → Bool
  | sends request => request.bearer.isSome
  | _ => false

/-- The number of requests that were sent with a token. -/
def requests (done : List Deed) : Nat :=
  done.countP (·.isRequest)

/-- The request for a token. -/
def tokenRequest (c : Client) : Except String HttpRequest :=
  c.requestTo .post "/oauth/token" none (some (Message.tokenRequest c.credentials))

/-- A look at the token: what was found, and what the clock showed then if the clock was read. -/
structure Look where
  found : Option Token
  reading : Option Timestamp

namespace Look

/-- The deeds of a look, the last one first. -/
def deeds (l : Look) : List Deed :=
  (l.reading.map Deed.reads).toList ++ [.takes l.found]

/-- Whether the clock was read exactly when a token with a value was found. -/
def IsThorough (l : Look) : Prop :=
  l.reading.isSome = true ↔ ∃ t ∈ l.found, t.value ≠ ""

/-- Whether the token cannot be used: there is none, or its value is empty, or the clock has reached
the end of its time. -/
def IsStale (l : Look) : Prop :=
  match l.found with
  | none => True
  | some t => t.value = "" ∨ ∃ now ∈ l.reading, now.isBefore t.expiresAt = false

end Look

/-- An authentication that succeeded. -/
structure Renewal where
  request : HttpRequest
  response : HttpResponse
  grant : Message.TokenGrant
  /-- What the clock showed when the token had been granted. -/
  now : Timestamp
  expiresAt : Timestamp

namespace Renewal

/-- The new token. -/
def fresh (r : Renewal) : Token where
  value := r.grant.accessToken
  expiresAt := r.expiresAt

/-- The deeds of an authentication, the last one first. -/
def deeds (r : Renewal) : List Deed :=
  [.reads r.now, .hears (.ok r.response), .sends r.request]

/-- Whether a client authenticates in this way. -/
structure IsLawful (c : Client) (r : Renewal) : Prop where
  built : c.tokenRequest = .ok r.request
  granted : granted r.response = .ok r.grant
  dated : Token.expiry? r.now r.grant.expiresIn = some r.expiresAt

end Renewal

/-- What an operation does from when it takes hold of the token until it puts a token back that can
be used. -/
structure Visit where
  look : Look
  renewal : Option Renewal

namespace Visit

/-- The deeds of a visit, the last one first. -/
def deeds (v : Visit) : List Deed :=
  .puts (v.renewal.map Renewal.fresh) :: (v.renewal.elim [] Renewal.deeds ++ v.look.deeds)

/-- The token at the end of a visit. -/
def token (v : Visit) : Option Token :=
  v.renewal.elim v.look.found fun r => some r.fresh

/-- Whether a client authenticated exactly when the token that it found could not be used. -/
structure IsLawful (c : Client) (v : Visit) : Prop where
  look : v.look.IsThorough
  renews : v.renewal.isSome = true ↔ v.look.IsStale
  renewal : ∀ r ∈ v.renewal, r.IsLawful c

end Visit

/-- An authentication that ends with an error. -/
inductive Refused (c : Client) : CloudError → List Deed → Prop
  | unbuilt {look : Look} {detail : String} (thorough : look.IsThorough) (stale : look.IsStale)
    (built : c.tokenRequest = .error detail) :
    Refused c (.transport authentication detail) (.puts none :: look.deeds)
  | unanswered {look : Look} {request : HttpRequest} {detail : String}
    (thorough : look.IsThorough) (stale : look.IsStale) (built : c.tokenRequest = .ok request) :
    Refused c (.transport authentication detail)
      (.puts none :: .hears (.error detail) :: .sends request :: look.deeds)
  /-- The response does not grant a token. -/
  | denied {look : Look} {request : HttpRequest} {response : HttpResponse} {e : CloudError}
    (thorough : look.IsThorough) (stale : look.IsStale) (built : c.tokenRequest = .ok request)
    (denies : granted response = .error e) :
    Refused c e (.puts none :: .hears (.ok response) :: .sends request :: look.deeds)

/-- An authentication whose token is granted for a time that cannot be represented. -/
structure Overflow where
  look : Look
  request : HttpRequest
  response : HttpResponse
  grant : Message.TokenGrant
  now : Timestamp

namespace Overflow

/-- The deeds of such an authentication, the last one first. -/
def deeds (x : Overflow) : List Deed :=
  .puts none :: .reads x.now :: .hears (.ok x.response) :: .sends x.request :: x.look.deeds

/-- Whether a client authenticates in this way. -/
structure IsLawful (c : Client) (x : Overflow) : Prop where
  thorough : x.look.IsThorough
  stale : x.look.IsStale
  built : c.tokenRequest = .ok x.request
  granted : granted x.response = .ok x.grant
  undated : Token.expiry? x.now x.grant.expiresIn = none

end Overflow

/-- How it ends when an operation asks for a value to send, and what it does until then. -/
inductive Bears (c : Client) : Ended String → List Deed → Prop
  | visited {visit : Visit} {token : Token} (lawful : visit.IsLawful c)
    (ends : visit.token = some token) : Bears c (.finished (.ok token.value)) visit.deeds
  | refused {e : CloudError} {done : List Deed} (refused : Refused c e done) :
    Bears c (.finished (.error e)) done
  | overflowed {x : Overflow} (lawful : x.IsLawful c) : Bears c .crashed x.deeds

/-- Whether an operation holds no token and has nothing to send: it has done nothing, or a request
of its own was the last thing. -/
def IsIdle (done : List Deed) : Prop :=
  done = [] ∨ ∃ answer request before,
    done = .hears answer :: .sends request :: before ∧ request.bearer.isSome = true

/-- Whether an operation has just been granted a token. -/
def Succeeds (c : Client) (done : List Deed) (token : Token) : Prop :=
  ∃ r : Renewal, r.deeds <+: done ∧ r.IsLawful c ∧ r.fresh = token

/-- Whether an operation found a token that it cannot use and has put it back. -/
def HasFailed (done : List Deed) : Prop :=
  ∃ (look : Look) (attempt : List Deed), look.IsStale ∧ (∀ found, .takes found ∉ attempt) ∧
    .puts none :: (attempt ++ look.deeds) <+: done

/-- What an operation of a client may do that sends no more than so many requests with a token. Its
record lists its deeds, the last one first. -/
def protocol (c : Client) (most : Nat) : Discipline Question Answer (List Deed) where
  next done q a := deeds q a ++ done
  may done q :=
    match q with
    | .takeToken => IsIdle done
    | .putToken fresh => (held done).isSome = true ∧
        ∀ token, fresh = some token ↔ Succeeds c done token
    | .now => (held done).isSome = true ∧ ∀ now before, done ≠ .reads now :: before
    | .exchange request =>
      (c.tokenRequest = .ok request ∧
          ∃ look : Look, look.deeds <+: done ∧ look.IsThorough ∧ look.IsStale) ∨
        (requests done < most ∧ ∃ (visit : Visit) (token : Token), visit.deeds <+: done ∧
          visit.IsLawful c ∧ visit.token = some token ∧ request.bearer = some token.value)
  expects _ _ _ := True

section Deeds

variable {c : Client} {done before : List Deed} {look : Look} {visit : Visit}

section Requests

variable {method : HttpMethod} {path : String} {bearer : Option String} {body : Option Json}
  {request : HttpRequest}

/-- A request is what it was put together from. -/
theorem of_requestTo (h : c.requestTo method path bearer body = .ok request) :
    request.method = method ∧ request.bearer = bearer ∧ request.body = body := by
  unfold requestTo at h
  split at h
  · cases h
  · split at h
    · cases h
      exact ⟨rfl, rfl, rfl⟩
    · cases h

theorem bearer_of_requestTo (h : c.requestTo method path bearer body = .ok request) :
    request.bearer = bearer :=
  (of_requestTo h).2.1

end Requests

@[simp] theorem held_look : held (look.deeds ++ before) = some look.found := by
  obtain ⟨found, reading⟩ := look
  cases reading <;> rfl

theorem isSome_held_look : (held (look.deeds ++ before)).isSome = true := by
  rw [held_look]
  rfl

theorem held_of_look (h : look.deeds <+: done) : held done = some look.found := by
  obtain ⟨before, rfl⟩ := h
  exact held_look

@[simp] theorem requests_look : requests (look.deeds ++ before) = requests before := by
  obtain ⟨found, reading⟩ := look
  cases reading <;> simp [Look.deeds, requests, Deed.isRequest]

/-- A visit sends no request with a token. -/
theorem Visit.IsLawful.requests (h : visit.IsLawful c) :
    requests (visit.deeds ++ before) = requests before := by
  obtain ⟨look, renewal⟩ := visit
  cases renewal with
  | none =>
      change Client.requests (.puts none :: (look.deeds ++ before)) = _
      rw [Client.requests, List.countP_cons_of_neg (by simp [Deed.isRequest])]
      exact requests_look
  | some r =>
      have bearer := bearer_of_requestTo (h.renewal r rfl).built
      change Client.requests (.puts (some r.fresh) :: .reads r.now :: .hears (.ok r.response) ::
        .sends r.request :: (look.deeds ++ before)) = _
      simp only [Client.requests, List.countP_cons, Deed.isRequest, bearer]
      exact requests_look

/-- A look at the token is no authentication. -/
theorem not_succeeds_look (token : Token) : ¬ Succeeds c (look.deeds ++ before) token := by
  rintro ⟨r, start, -⟩
  obtain ⟨found, reading⟩ := look
  cases reading with
  | none => exact absurd (List.cons_prefix_cons.mp start).1 nofun
  | some now =>
      have second := (List.cons_prefix_cons.mp start).2
      exact absurd (List.cons_prefix_cons.mp second).1 nofun

theorem not_succeeds_hears {answer : Except String HttpResponse} (token : Token) :
    ¬ Succeeds c (.hears answer :: before) token := by
  rintro ⟨r, start, -⟩
  exact absurd (List.cons_prefix_cons.mp start).1 nofun

/-- An authentication has succeeded when a token was granted for a time that can be represented. -/
theorem succeeds_iff {request : HttpRequest} {response : HttpResponse} {now : Timestamp}
    {token : Token} : Succeeds c (.reads now :: .hears (.ok response) :: .sends request :: before)
      token ↔ c.tokenRequest = .ok request ∧ ∃ grant, granted response = .ok grant ∧
        ∃ expiresAt, Token.expiry? now grant.expiresIn = some expiresAt ∧
          token = { value := grant.accessToken, expiresAt } := by
  constructor
  · rintro ⟨r, start, lawful, rfl⟩
    simp only [Renewal.deeds, List.cons_prefix_cons, Deed.reads.injEq, Deed.hears.injEq,
      Except.ok.injEq, Deed.sends.injEq] at start
    obtain ⟨rfl, rfl, rfl, -⟩ := start
    exact ⟨lawful.built, r.grant, lawful.granted, r.expiresAt, lawful.dated, rfl⟩
  · rintro ⟨built, grant, grants, expiresAt, dates, rfl⟩
    let renewal : Renewal := { request, response, grant, now, expiresAt }
    exact ⟨renewal, ⟨before, rfl⟩, ⟨built, grants, dates⟩, rfl⟩

/-- After the last time that an operation took hold of the token there is one look at most. -/
theorem eq_of_look {other : Look} {attempt before' : List Deed}
    (none : ∀ found, .takes found ∉ attempt)
    (same : look.deeds ++ before = attempt ++ (other.deeds ++ before')) :
    look.found = other.found ∧ ∀ now ∈ other.reading, now ∈ look.reading := by
  obtain ⟨found, reading⟩ := look
  obtain ⟨found', reading'⟩ := other
  -- The deeds of both looks are compared from the last one on, past the attempt.
  cases reading with
  | none =>
      cases attempt with
      | nil => cases reading' <;> cases same; exact ⟨rfl, nofun⟩
      | cons deed attempt =>
          cases (List.cons.inj same).1
          exact absurd List.mem_cons_self (none found)
  | some now =>
      cases attempt with
      | nil => cases reading' <;> cases same; exact ⟨rfl, fun _ h => h⟩
      | cons deed attempt =>
          have rest := (List.cons.inj same).2
          cases attempt with
          | nil => cases reading' <;> cases rest; exact ⟨rfl, nofun⟩
          | cons deed attempt =>
              cases (List.cons.inj rest).1
              exact absurd (List.mem_cons_of_mem _ List.mem_cons_self) (none found)

theorem Look.IsStale.of_le {other : Look} (stale : other.IsStale) (found : look.found = other.found)
    (readings : ∀ now ∈ other.reading, now ∈ look.reading) : look.IsStale := by
  unfold IsStale at stale ⊢
  rw [found]
  cases h : other.found with
  | none => trivial
  | some t =>
      rw [h] at stale
      refine stale.imp_right ?_
      rintro ⟨now, read, late⟩
      exact ⟨now, readings now read, late⟩

/-- Where there is a lawful visit there is no failure. -/
theorem Visit.IsLawful.not_hasFailed (h : visit.IsLawful c) (visited : visit.deeds <+: done) :
    ¬ HasFailed done := by
  rintro ⟨other, attempt, stale, none, start⟩
  obtain ⟨before, rfl⟩ := visited
  obtain ⟨before', same⟩ := start
  obtain ⟨look, renewal⟩ := visit
  cases renewal with
  | some r => cases (List.cons.inj same).1
  | none =>
      have rest : look.deeds ++ before = attempt ++ (other.deeds ++ before') := by
        rw [← List.append_assoc]
        exact (List.cons.inj same).2.symm
      obtain ⟨found, readings⟩ := eq_of_look none rest
      exact absurd (h.renews.mpr (stale.of_le found readings)) nofun

theorem IsIdle.not_hasFailed (h : IsIdle done) : ¬ HasFailed done := by
  rintro ⟨look, attempt, -, -, start⟩
  obtain rfl | ⟨answer, request, before, rfl, -⟩ := h
  · exact absurd (List.prefix_nil.mp start) nofun
  · exact absurd (List.cons_prefix_cons.mp start).1 nofun

theorem not_hasFailed_of_held (h : (held done).isSome = true) : ¬ HasFailed done := by
  rintro ⟨look, attempt, -, -, start⟩
  obtain ⟨before, rfl⟩ := start
  exact absurd h nofun

/-- What may be done does not come after a failure. -/
theorem not_hasFailed_of_may {most : Nat} {q : Question} (h : (c.protocol most).may done q) :
    ¬ HasFailed done := by
  cases q with
  | takeToken => exact h.not_hasFailed
  | putToken fresh => exact not_hasFailed_of_held h.1
  | now => exact not_hasFailed_of_held h.1
  | exchange request =>
      rcases h with ⟨-, look, looked, -, -⟩ | ⟨-, visit, token, visited, lawful, -⟩
      · apply not_hasFailed_of_held
        rw [held_of_look looked]
        rfl
      · exact lawful.not_hasFailed visited

end Deeds

section Authentication

variable {c : Client}

/-- What follows when a token was granted. -/
def afterGrant (grant : Message.TokenGrant) (now : Timestamp) : Operation String :=
  match Token.expiry? now grant.expiresIn with
  | none => .ask (.putToken none) fun () => .done .crashed
  | some expiresAt =>
    .ask (.putToken (some { value := grant.accessToken, expiresAt })) fun () =>
      Operation.pure (.ok grant.accessToken)

/-- What follows the request for a token. -/
def afterResponse : Except String HttpResponse → Operation String
  | .error detail =>
    .ask (.putToken none) fun () =>
      .done (.finished (.error (.transport authentication detail)))
  | .ok response =>
    match granted response with
    | .error e => .ask (.putToken none) fun () => .done (.finished (.error e))
    | .ok grant => .ask .now (afterGrant grant)

theorem afterGrant_of_dated {grant : Message.TokenGrant} {now expiresAt : Timestamp}
    (dates : Token.expiry? now grant.expiresIn = some expiresAt) :
    afterGrant grant now =
      .ask (.putToken (some { value := grant.accessToken, expiresAt })) fun () =>
        Operation.pure (.ok grant.accessToken) := by
  simp only [afterGrant, dates]

theorem afterGrant_of_not_dated {grant : Message.TokenGrant} {now : Timestamp}
    (dates : Token.expiry? now grant.expiresIn = none) :
    afterGrant grant now = .ask (.putToken none) fun () => .done .crashed := by
  simp only [afterGrant, dates]

theorem afterResponse_of_granted {response : HttpResponse} {grant : Message.TokenGrant}
    (grants : granted response = .ok grant) :
    afterResponse (.ok response) = .ask .now (afterGrant grant) := by
  simp only [afterResponse, grants]

theorem afterResponse_of_refused {response : HttpResponse} {e : CloudError}
    (refuses : granted response = .error e) :
    afterResponse (.ok response) =
      .ask (.putToken none) fun () => .done (.finished (.error e)) := by
  simp only [afterResponse, refuses]

theorem authenticate_of_built {request : HttpRequest} (built : c.tokenRequest = .ok request) :
    c.authenticate = .ask (.exchange request) afterResponse := by
  change Procedure.bind (exchange authentication c.tokenRequest) _ = _
  rw [built]
  refine congrArg (Procedure.ask _) (funext ?_)
  rintro (detail | response)
  · rfl
  · change (match granted response with | .error e => _ | .ok grant => _) = _
    simp only [afterResponse]
    cases granted response <;> rfl

theorem authenticate_of_not_built {detail : String} (built : c.tokenRequest = .error detail) :
    c.authenticate = .ask (.putToken none) fun () =>
      .done (.finished (.error (.transport authentication detail))) := by
  change Procedure.bind (exchange authentication c.tokenRequest) _ = _
  rw [built]
  rfl

/-- What follows when an operation has found a token and read the clock. -/
def afterReading (c : Client) (t : Token) (now : Timestamp) : Operation String :=
  if now.isBefore t.expiresAt then
    .ask (.putToken none) fun () => Operation.pure (.ok t.value)
  else c.authenticate

/-- What follows when an operation has taken hold of the token. -/
def afterTaking (c : Client) : Option Token → Operation String
  | none => c.authenticate
  | some t => if t.value.isEmpty then c.authenticate else .ask .now (c.afterReading t)

theorem afterReading_of_early {t : Token} {now : Timestamp}
    (early : now.isBefore t.expiresAt = true) :
    c.afterReading t now = .ask (.putToken none) fun () => Operation.pure (.ok t.value) :=
  if_pos early

theorem afterTaking_of_filled {t : Token} (filled : t.value ≠ "") :
    c.afterTaking (some t) = .ask .now (c.afterReading t) :=
  if_neg fun empty => filled (String.isEmpty_iff.mp empty)

theorem afterTaking_of_empty {t : Token} (empty : t.value = "") :
    c.afterTaking (some t) = c.authenticate :=
  if_pos (String.isEmpty_iff.mpr empty)

theorem bearer_eq_ask : c.bearer = .ask .takeToken c.afterTaking := by
  refine congrArg (Procedure.ask _) (funext ?_)
  rintro (- | t) <;> rfl

end Authentication

section Operations

variable {c : Client} {most : Nat} {done : List Deed} {look : Look} {α : Type}

/-- What an operation has done when it asked for a value to send. It no longer holds the token. -/
def HasAsked (c : Client) (done : List Deed) (result : Ended String) (after : List Deed) : Prop :=
  held after = none ∧ ∃ own, after = own ++ done ∧ Bears c result own

/-- Without success the token is put back as it was. -/
theorem follows_keep {result : Ended String} {own : List Deed}
    (bears : Bears c result (.puts none :: own)) (holds : (held (own ++ done)).isSome = true)
    (granted : ∀ token, ¬ Succeeds c (own ++ done) token) :
    Follows (c.protocol most) (HasAsked c done)
      (.ask (.putToken none) fun () => .done result : Operation String) (own ++ done) := by
  refine ⟨⟨holds, fun token => ?_⟩, fun _ _ => ⟨rfl, _, rfl, bears⟩⟩
  exact iff_of_false nofun (granted token)

/-- A grant is put in place of the token, unless it is for a time that cannot be represented. -/
theorem follows_afterGrant {request : HttpRequest} {response : HttpResponse}
    {grant : Message.TokenGrant} {now : Timestamp} (thorough : look.IsThorough)
    (stale : look.IsStale) (built : c.tokenRequest = .ok request)
    (grants : granted response = .ok grant) :
    (afterGrant grant now).Follows (c.protocol most) (HasAsked c done)
      (.reads now :: .hears (.ok response) :: .sends request :: (look.deeds ++ done)) := by
  have holds : (held (look.deeds ++ done)).isSome = true := isSome_held_look
  cases dates : Token.expiry? now grant.expiresIn with
  | none =>
      let overflow : Overflow := { look, request, response, grant, now }
      have lawful : overflow.IsLawful c := ⟨thorough, stale, built, grants, dates⟩
      rw [afterGrant_of_not_dated dates]
      have bears : Bears c .crashed overflow.deeds := .overflowed lawful
      refine follows_keep bears holds fun token success => ?_
      obtain ⟨-, other, same, expiresAt, dated, -⟩ := succeeds_iff.mp success
      cases grants.symm.trans same
      cases dates.symm.trans dated
  | some expiresAt =>
      let renewal : Renewal := { request, response, grant, now, expiresAt }
      let visit : Visit := ⟨look, some renewal⟩
      have lawful : visit.IsLawful c := by
        refine ⟨thorough, iff_of_true rfl stale, ?_⟩
        rintro _ ⟨⟩
        exact ⟨built, grants, dates⟩
      rw [afterGrant_of_dated dates]
      refine ⟨⟨holds, fun token => ?_⟩, fun _ _ => ⟨rfl, _, rfl, .visited lawful rfl⟩⟩
      refine Iff.trans ?_ succeeds_iff.symm
      constructor
      · rintro ⟨⟩
        exact ⟨built, grant, grants, expiresAt, dates, rfl⟩
      · rintro ⟨-, other, same, end', dated, rfl⟩
        cases grants.symm.trans same
        cases dates.symm.trans dated
        rfl

theorem follows_afterResponse {request : HttpRequest} (thorough : look.IsThorough)
    (stale : look.IsStale) (built : c.tokenRequest = .ok request)
    (answer : Except String HttpResponse) :
    (afterResponse answer).Follows (c.protocol most) (HasAsked c done)
      (.hears answer :: .sends request :: (look.deeds ++ done)) := by
  have holds : (held (look.deeds ++ done)).isSome = true := isSome_held_look
  cases answer with
  | error detail =>
      have refused : Refused c (.transport authentication detail) _ :=
        .unanswered thorough stale built
      exact follows_keep (.refused refused) holds not_succeeds_hears
  | ok response =>
      cases grants : granted response with
      | error e =>
          rw [afterResponse_of_refused grants]
          have refused := Refused.denied thorough stale built grants
          exact follows_keep (.refused refused) holds not_succeeds_hears
      | ok grant =>
          rw [afterResponse_of_granted grants]
          refine ⟨⟨holds, nofun⟩, fun now _ => ?_⟩
          exact follows_afterGrant thorough stale built grants

theorem follows_authenticate (thorough : look.IsThorough) (stale : look.IsStale) :
    c.authenticate.Follows (c.protocol most) (HasAsked c done) (look.deeds ++ done) := by
  cases built : c.tokenRequest with
  | error detail =>
      rw [authenticate_of_not_built built]
      have refused := Refused.unbuilt thorough stale built
      exact follows_keep (.refused refused) isSome_held_look not_succeeds_look
  | ok request =>
      rw [authenticate_of_built built]
      refine ⟨.inl ⟨built, look, List.prefix_append _ _, thorough, stale⟩, fun answer _ => ?_⟩
      exact follows_afterResponse thorough stale built answer

theorem follows_afterReading {t : Token} {now : Timestamp} (filled : t.value ≠ "") :
    (c.afterReading t now).Follows (c.protocol most) (HasAsked c done)
      (.reads now :: .takes (some t) :: done) := by
  let look : Look := ⟨some t, some now⟩
  have thorough : look.IsThorough := iff_of_true rfl ⟨t, rfl, filled⟩
  unfold afterReading
  split
  next early =>
    have usable : ¬ look.IsStale := by
      rintro (empty | ⟨_, ⟨⟩, late⟩)
      · exact filled empty
      · rw [late] at early
        cases early
    let visit : Visit := ⟨look, none⟩
    have lawful : visit.IsLawful c :=
      ⟨thorough, iff_of_false nofun usable, fun _ renewed => nomatch renewed⟩
    have looked (token : Token) : ¬ Succeeds c (look.deeds ++ done) token :=
      not_succeeds_look token
    have bears : Bears c (.finished (.ok t.value)) visit.deeds := .visited lawful rfl
    exact follows_keep bears rfl looked
  next late =>
    have stale : look.IsStale := .inr ⟨now, rfl, Bool.eq_false_iff.mpr late⟩
    exact @follows_authenticate c most done look thorough stale

/-- An operation that asks for a value authenticates when the token cannot be used. -/
theorem follows_bearer (idle : IsIdle done) :
    c.bearer.Follows (c.protocol most) (HasAsked c done) done := by
  rw [bearer_eq_ask]
  refine ⟨idle, fun found _ => ?_⟩
  cases found with
  | none =>
      have thorough : Look.IsThorough ⟨none, none⟩ := iff_of_false nofun nofun
      exact @follows_authenticate c most done ⟨none, none⟩ thorough trivial
  | some t =>
      by_cases empty : t.value = ""
      · rw [afterTaking_of_empty empty]
        have thorough : Look.IsThorough ⟨some t, none⟩ := by
          refine iff_of_false nofun ?_
          rintro ⟨_, ⟨⟩, filled⟩
          exact filled empty
        exact @follows_authenticate c most done ⟨some t, none⟩ thorough (.inl empty)
      · rw [afterTaking_of_filled empty]
        exact ⟨⟨rfl, nofun⟩, fun now _ => follows_afterReading empty⟩

/-- What an operation has done when it has asked for a value and sent a request: it no longer holds
the token, and with a response it has sent one more request and is idle again. -/
def HasSent (done : List Deed) (result : Ended α) (after : List Deed) : Prop :=
  held after = none ∧ ∀ value, result = .finished (.ok value) →
    IsIdle after ∧ requests after = requests done + 1

/-- After a visit the request is sent with the value of the token, if it can be put together. -/
theorem follows_exchange {visit : Visit} {token : Token} (lawful : visit.IsLawful c)
    (ends : visit.token = some token) (more : requests done < most) (operation : String)
    (method : HttpMethod) (path : String) (body : Option Json) :
    (exchange operation (c.requestTo method path (some token.value) body)).Follows
      (c.protocol most) (HasSent done) (visit.deeds ++ done) := by
  unfold exchange
  cases built : c.requestTo method path (some token.value) body with
  | error detail => exact ⟨rfl, fun _ ended => nomatch ended⟩
  | ok request =>
      have bearer := bearer_of_requestTo built
      refine ⟨.inr ⟨?_, visit, token, List.prefix_append _ _, lawful, ends, bearer⟩, ?_⟩
      · rwa [lawful.requests]
      rintro (detail | response) -
      · exact ⟨rfl, fun _ ended => nomatch ended⟩
      refine ⟨rfl, fun _ _ => ⟨.inr ⟨_, request, _, rfl, ?_⟩, ?_⟩⟩
      · rw [bearer]
        rfl
      · have visited : requests (visit.deeds ++ done) = requests done := lawful.requests
        change requests (.hears _ :: .sends request :: (visit.deeds ++ done)) = _
        rw [← visited]
        simp only [requests, List.countP_cons, Deed.isRequest, bearer]
        rfl

theorem follows_send (idle : IsIdle done) (more : requests done < most) (operation : String)
    (method : HttpMethod) (path : String) (body : Option Json) :
    (c.send operation method path body).Follows (c.protocol most) (HasSent done) done := by
  unfold send Operation.andThen
  apply (follows_bearer idle).bind
  rintro result _ ⟨released, own, rfl, bears⟩
  cases bears with
  | visited lawful ends => exact follows_exchange lawful ends more operation method path body
  | refused => exact ⟨released, fun _ ended => nomatch ended⟩
  | overflowed => exact ⟨released, fun _ ended => nomatch ended⟩

/-- Reading the response changes nothing. -/
theorem follows_andThen_pure {β : Type} {operation : Operation α}
    (h : operation.Follows (c.protocol most) (HasSent done) done)
    (read : α → Except CloudError β) :
    (operation.andThen fun value => Operation.pure (read value)).Follows (c.protocol most)
      (HasSent done) done := by
  unfold Operation.andThen
  apply h.bind
  rintro (- | (e | value)) after ⟨released, sent⟩
  · exact ⟨released, fun _ ended => nomatch ended⟩
  · exact ⟨released, fun _ ended => nomatch ended⟩
  · exact ⟨released, fun _ _ => sent value rfl⟩

theorem follows_fetch (idle : IsIdle done) (more : requests done < most)
    (operation resource : String) (method : HttpMethod) (path : String) (body : Option Json)
    (read : Json → Option α) :
    (c.fetch operation resource method path body read).Follows (c.protocol most) (HasSent done)
      done :=
  follows_andThen_pure (follows_send idle more operation method path body) _

theorem follows_perform (idle : IsIdle done) (more : requests done < most)
    (operation resource : String) (method : HttpMethod) (path : String) :
    (c.perform operation resource method path).Follows (c.protocol most) (HasSent done) done :=
  follows_andThen_pure (follows_send idle more operation method path none) _

/-- Creating an instance sends two requests at most, and makes a visit for each. -/
theorem follows_createInstance (r : InstanceRequest) :
    (c.createInstance r).Follows (c.protocol 2) (fun _ after => held after = none) [] := by
  unfold createInstance Operation.andThen
  apply (follows_fetch (.inl rfl) (by decide) _ _ _ _ _ _).bind
  rintro (- | (e | id)) after ⟨released, sent⟩
  · exact released
  · exact released
  obtain ⟨idle, once⟩ := sent id rfl
  have more : requests after < 2 := by
    rw [once]
    decide
  apply (follows_fetch idle more _ _ _ _ _ _).bind
  rintro (- | (e | found)) after' ⟨released', -⟩
  · exact released'
  · exact released'
  · exact released'

end Operations

/-- An operation of a client, with what it is asked for. -/
inductive Call where
  | createInstance (r : InstanceRequest)
  | getInstance (id : String)
  | deleteInstance (id : String)
  | startInstance (id : String)
  | stopInstance (id : String)
  | listImages
  | getImage (id : String)
  | listSshKeys
  | createSshKey (name publicKey : String)
  | deleteSshKey (id : String)
  | createLoadBalancer
  | getLoadBalancer (id : String)
  | deleteLoadBalancer (id : String)
  | updateLoadBalancerTargets (id : String)

namespace Call

/-- An operation, whatever its result is. -/
def run (c : Client) : Call → Procedure Question Answer Unit
  | createInstance r => (c.createInstance r).bind fun _ => .done ()
  | getInstance id => (c.getInstance id).bind fun _ => .done ()
  | deleteInstance id => (c.deleteInstance id).bind fun _ => .done ()
  | startInstance id => (c.startInstance id).bind fun _ => .done ()
  | stopInstance id => (c.stopInstance id).bind fun _ => .done ()
  | listImages => c.listImages.bind fun _ => .done ()
  | getImage id => (c.getImage id).bind fun _ => .done ()
  | listSshKeys => c.listSshKeys.bind fun _ => .done ()
  | createSshKey name publicKey => (c.createSshKey name publicKey).bind fun _ => .done ()
  | deleteSshKey id => (c.deleteSshKey id).bind fun _ => .done ()
  | createLoadBalancer => c.createLoadBalancer.bind fun _ => .done ()
  | getLoadBalancer id => (c.getLoadBalancer id).bind fun _ => .done ()
  | deleteLoadBalancer id => (c.deleteLoadBalancer id).bind fun _ => .done ()
  | updateLoadBalancerTargets id => (c.updateLoadBalancerTargets id).bind fun _ => .done ()

/-- Whether an operation is about a load balancer. -/
def isAboutLoadBalancer : Call → Bool
  | createLoadBalancer | getLoadBalancer _ | deleteLoadBalancer _
  | updateLoadBalancerTargets _ => true
  | _ => false

/-- The most requests that an operation sends with a token. -/
def most : Call → Nat
  | createInstance _ => 2
  | call => if call.isAboutLoadBalancer then 0 else 1

/-- What is about a load balancer asks nothing. -/
theorem run_of_isAboutLoadBalancer {call : Call} (h : call.isAboutLoadBalancer = true)
    (c : Client) : call.run c = .done () := by
  cases call <;> first | rfl | cases h

/-- Every operation keeps to the protocol, and does not keep the token to itself when it ends. -/
theorem follows_run (c : Client) (call : Call) :
    (call.run c).Follows (c.protocol call.most) (fun _ after => held after = none) [] := by
  have ends {α : Type} {operation : Operation α}
      (h : operation.Follows (c.protocol 1) (HasSent []) []) :
      (Procedure.bind operation fun _ => .done ()).Follows (c.protocol 1)
        (fun _ after => held after = none) [] :=
    h.bind fun _ _ sent => sent.1
  have idle : IsIdle [] := .inl rfl
  have more : requests [] < 1 := by decide
  cases call with
  | createInstance r => exact (follows_createInstance r).bind fun _ _ released => released
  | getInstance id => exact ends (follows_fetch idle more _ _ _ _ _ _)
  | deleteInstance id => exact ends (follows_perform idle more _ _ _ _)
  | startInstance id => exact ends (follows_perform idle more _ _ _ _)
  | stopInstance id => exact ends (follows_perform idle more _ _ _ _)
  | listImages => exact ends (follows_fetch idle more _ _ _ _ _ _)
  | getImage id => exact ends (follows_fetch idle more _ _ _ _ _ _)
  | listSshKeys => exact ends (follows_fetch idle more _ _ _ _ _ _)
  | createSshKey name publicKey => exact ends (follows_fetch idle more _ _ _ _ _ _)
  | deleteSshKey id => exact ends (follows_perform idle more _ _ _ _)
  | createLoadBalancer => exact rfl
  | getLoadBalancer id => exact rfl
  | deleteLoadBalancer id => exact rfl
  | updateLoadBalancerTargets id => exact rfl

end Call

end MachineProvider.Client
