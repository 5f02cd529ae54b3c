import MachineProvider.Proofs.Cloud.Visit

/-!
# The errands of a client

All but one of the operations of a client are errands: a visit gives a value to send along with one
request, and then what comes back is read. `Client.Errand.Ends` lists the ways in which an errand
can end, each with all that was done until then, and `Client.Errand.follows_run` says that there
are no others. What was done decides how it ended: with a value, with an error, or with a crash,
which comes of a token that is granted for a time that cannot be represented (`Client.Overflow`).
One exchange is what the HTTP library makes of one request.
-/

namespace MachineProvider

namespace CloudError

/-- The operation that a failure names. -/
def operation? : CloudError → Option String
  | transport operation _ => some operation
  | api operation _ _ => some operation
  | notFound operation _ => some operation
  | authentication operation _ _ => some operation
  | malformed operation _ => some operation
  | configuration _ => none
  | unimplemented _ => none

variable {e : CloudError} {operation : String}

/-- The text that reports a failure begins with the operation. -/
theorem message_of_operation? (h : e.operation? = some operation) :
    ∃ rest, e.message = operation ++ ": " ++ rest := by
  have parts (phrase rest : String) :
      operation ++ (": " ++ phrase) ++ rest = operation ++ ": " ++ (phrase ++ rest) := by
    simp only [String.append_assoc]
  have status (phrase : String) (status : Nat) (text : String) :
      operation ++ (": " ++ phrase) ++ toString status ++ " - " ++ text =
        operation ++ ": " ++ (phrase ++ toString status ++ " - " ++ text) := by
    simp only [String.append_assoc]
  cases e with
  | transport _ detail => cases h; exact ⟨_, parts "HTTP error: " detail⟩
  | api _ code text => cases h; exact ⟨_, status "API error: " code text⟩
  | notFound _ resource => cases h; exact ⟨_, parts "resource not found: " resource⟩
  | authentication _ code text => cases h; exact ⟨_, status "authentication failed: " code text⟩
  | malformed _ detail => cases h; exact ⟨_, parts "serialization error: " detail⟩
  | configuration _ => cases h
  | unimplemented _ => cases h

end CloudError

/-- Answers questions and lists the deeds that belong to them, the last one first. -/
def Client.listing {σ : Type} (answer : (q : Question) → σ → Answer q × σ) (q : Question)
    (s : σ × List Deed) : Answer q × (σ × List Deed) :=
  ((answer q s.1).1, (answer q s.1).2, deeds q (answer q s.1).1 ++ s.2)

/-- How an operation ends, and what it does until then. -/
def Operation.ran {α σ : Type} (operation : Operation α)
    (answer : (q : Client.Question) → σ → Client.Answer q × σ) (s : σ) :
    Ended α × List Client.Deed :=
  let (result, _, done) := operation.run (Client.listing answer) (s, [])
  (result, done)

namespace Client

open Procedure

variable {α : Type}

section Recording

/-- Lists the deeds of an operation, the last one first, whatever it does. -/
def recording : Discipline Question Answer (List Deed) where
  next done q a := deeds q a ++ done
  may _ _ := True
  expects _ _ _ := True

/-- What suits the deeds of an operation, whatever it is answered, suits those of a run. -/
theorem ran_of_follows {σ : Type} {post : Ended α → List Deed → Prop} {operation : Operation α}
    (h : operation.Follows recording post []) (answer : (q : Question) → σ → Answer q × σ) (s : σ) :
    post (operation.ran answer s).1 (operation.ran answer s).2 := by
  have begins : operation.Follows recording post (s, ([] : List Deed)).2 := h
  exact begins.run (fun _ _ => trivial) fun _ _ => rfl

/-- An operation that goes on from the deeds of others adds its own to them. -/
theorem follows_after {post : α → List Deed → Prop} {p : Procedure Question Answer α}
    (h : p.Follows recording post []) (before : List Deed) :
    p.Follows recording (fun result done => ∃ own, done = own ++ before ∧ post result own) before := by
  refine h.simulate (R := fun own done => done = own ++ before) rfl ?_ ?_ ?_
  · exact fun _ _ _ _ _ => trivial
  · exact fun _ _ _ _ _ _ => trivial
  · rintro own _ q a rfl - -
    exact (List.append_assoc _ _ _).symm

end Recording

section Unsent

variable {c : Client} {look : Look} {done : List Deed} {request : HttpRequest}

theorem sends_not_mem (unsent : requests done = 0) (bearer : request.bearer.isSome = true) :
    .sends request ∉ done :=
  fun member => List.countP_eq_zero.mp unsent _ member bearer

theorem requests_look_self : requests look.deeds = 0 := by
  rw [← List.append_nil look.deeds]
  exact requests_look

/-- A visit sends nothing with a token. -/
theorem requests_visit {visit : Visit} (lawful : visit.IsLawful c) : requests visit.deeds = 0 := by
  rw [← List.append_nil visit.deeds]
  exact lawful.requests

/-- To ask for a token, none is sent. -/
theorem requests_tokenRequest (built : c.tokenRequest = .ok request) :
    requests (.sends request :: look.deeds) = 0 := by
  rw [requests, List.countP_cons_of_neg (by simp [Deed.isRequest, bearer_of_requestTo built])]
  exact requests_look_self

theorem Refused.requests_eq_zero {e : CloudError} (h : Refused c e done) : requests done = 0 := by
  cases h with
  | unbuilt => exact requests_look_self
  | unanswered _ _ built => exact requests_tokenRequest built
  | denied _ _ built => exact requests_tokenRequest built

theorem Overflow.IsLawful.requests_eq_zero {x : Overflow} (h : x.IsLawful c) :
    requests x.deeds = 0 :=
  requests_tokenRequest h.built

/-- An authentication that is refused does not get as far as reading the clock. -/
theorem Refused.ne_overflow {e : CloudError} (h : Refused c e done) (x : Overflow) :
    done ≠ x.deeds := by
  rintro same
  cases h with
  | @unbuilt look =>
      obtain ⟨found, reading⟩ := look
      cases reading <;> cases same
  | unanswered => cases same
  | denied => cases same

/-- Nor does a visit end like one whose token is granted for too long. -/
theorem deeds_visit_ne_overflow (visit : Visit) (x : Overflow) : visit.deeds ≠ x.deeds := by
  obtain ⟨⟨found, reading⟩, renewal⟩ := visit
  intro same
  cases renewal with
  | some r => cases same
  | none => cases reading <;> cases same

end Unsent

/-- Asking for a value to send ends in one of these ways. -/
theorem bears_bearer (c : Client) : c.bearer.Follows recording (Bears c) [] := by
  have asked : c.bearer.Follows (c.protocol 0) (HasAsked c []) [] := follows_bearer (.inl rfl)
  have listed : c.bearer.Follows recording (HasAsked c []) [] :=
    asked.weaken rfl (fun _ _ _ => trivial) fun _ _ _ _ => trivial
  apply listed.mono
  rintro result _ ⟨-, own, rfl, bears⟩
  rwa [List.append_nil]

/-- A request that an operation is about, and the words that failures have for it. -/
structure Order where
  operation : String
  resource : String
  method : HttpMethod
  path : String
  body : Option Json

/-- A visit and the request that is sent after it, with the answer to it. -/
structure Trip where
  visit : Visit
  request : HttpRequest
  answer : Except String HttpResponse

namespace Trip

/-- The deeds of a trip, the last one first. -/
def deeds (t : Trip) : List Deed :=
  .hears t.answer :: .sends t.request :: t.visit.deeds

/-- Whether a client makes such a trip for an order: the request is sent with the token at the end
of the visit. -/
structure IsLawful (c : Client) (o : Order) (t : Trip) : Prop where
  visit : t.visit.IsLawful c
  sent : ∃ token, t.visit.token = some token ∧
    c.requestTo o.method o.path (some token.value) o.body = .ok t.request

section Trips

variable {c : Client} {o : Order} {t : Trip}

theorem IsLawful.method (h : t.IsLawful c o) : t.request.method = o.method := by
  obtain ⟨token, -, built⟩ := h.sent
  exact (of_requestTo built).1

theorem IsLawful.body (h : t.IsLawful c o) : t.request.body = o.body := by
  obtain ⟨token, -, built⟩ := h.sent
  exact (of_requestTo built).2.2

theorem IsLawful.isSome_bearer (h : t.IsLawful c o) : t.request.bearer.isSome = true := by
  obtain ⟨token, -, built⟩ := h.sent
  rw [bearer_of_requestTo built]
  rfl

/-- What a trip sends with a token is its request. -/
theorem IsLawful.eq_of_sends (h : t.IsLawful c o) {request : HttpRequest}
    (member : .sends request ∈ t.deeds) (bearer : request.bearer.isSome = true) :
    request = t.request := by
  rcases List.mem_cons.mp member with last | earlier
  · cases last
  · rcases List.mem_cons.mp earlier with this | visited
    · exact Deed.sends.inj this
    · exact absurd visited (sends_not_mem (requests_visit h.visit) bearer)

/-- A trip that others have been made before is not the first one. -/
theorem IsLawful.eq_of_suffix {o' : Order} {t' : Trip} (h : t.IsLawful c o)
    (h' : t'.IsLawful c o') (first : t.deeds <:+ t'.deeds) : t.deeds = t'.deeds := by
  rcases List.suffix_cons_iff.mp first with same | first
  · exact same
  rcases List.suffix_cons_iff.mp first with same | visited
  · exact absurd (List.cons.inj same).1 nofun
  have member : .sends t.request ∈ t'.visit.deeds := visited.mem (by simp [deeds])
  exact absurd member (sends_not_mem (requests_visit h'.visit) h.isSome_bearer)

/-- There is one first trip at most. -/
theorem IsLawful.answer_eq {o' : Order} {t' : Trip} {done : List Deed} (h : t.IsLawful c o)
    (h' : t'.IsLawful c o') (first : t.deeds <:+ done) (first' : t'.deeds <:+ done) :
    t.deeds = t'.deeds ∧ t.answer = t'.answer := by
  have same : t.deeds = t'.deeds := by
    rcases List.suffix_or_suffix_of_suffix first first' with first | first
    · exact h.eq_of_suffix h' first
    · exact (h'.eq_of_suffix h first).symm
  exact ⟨same, Deed.hears.inj (List.cons.inj same).1⟩

end Trips

end Trip

/-- An order and how a response that reports success is read. -/
structure Errand (α : Type) extends Order where
  read : HttpResponse → Except CloudError α
  /-- A response that cannot be read says nothing about the resource. -/
  unread : ∀ {response : HttpResponse} {e : CloudError}, read response = .error e →
    e.operation? = some operation ∧ e.isNotFound = false

/-- A body that cannot be read says which operation was attempted, and nothing about its resource. -/
theorem of_readBody_eq_error {operation : String} {read : Json → Option α}
    {response : HttpResponse} {e : CloudError} (h : readBody operation read response = .error e) :
    e.operation? = some operation ∧ e.isNotFound = false := by
  unfold readBody at h
  split at h
  · cases h
    exact ⟨rfl, rfl⟩
  · split at h
    · cases h
    · cases h
      exact ⟨rfl, rfl⟩

namespace Errand

/-- The errand for a value that is read from the body of the response. -/
def ofBody (order : Order) (read : Json → Option α) : Errand α where
  toOrder := order
  read := readBody order.operation read
  unread h := of_readBody_eq_error h

/-- The errand that only has to succeed. -/
def ofStatus (order : Order) : Errand Unit where
  toOrder := order
  read _ := .ok ()
  unread h := nomatch h

/-- What is made of the response. -/
def result (o : Errand α) (response : HttpResponse) : Except CloudError α :=
  received o.operation o.resource response (o.read response)

/-- The operation that does an errand. -/
def run (c : Client) (o : Errand α) : Operation α :=
  (c.send o.operation o.method o.path o.body).andThen fun response =>
    Operation.pure (o.result response)

/-- Whether a trip brings the value that an errand is for. -/
structure Brings (c : Client) (o : Errand α) (t : Trip) (value : α) : Prop where
  lawful : t.IsLawful c o.toOrder
  answered : ∃ response, t.answer = .ok response ∧ response.isSuccess = true ∧
    o.read response = .ok value

/-- An errand that ends with an error. -/
inductive Fails (c : Client) (o : Errand α) : CloudError → List Deed → Prop
  | unauthorized {e : CloudError} {done : List Deed} (refused : Refused c e done) : Fails c o e done
  | unsent {visit : Visit} {token : Token} {detail : String} (lawful : visit.IsLawful c)
    (ends : visit.token = some token)
    (built : c.requestTo o.method o.path (some token.value) o.body = .error detail) :
    Fails c o (.transport o.operation detail) visit.deeds
  | unanswered {t : Trip} {detail : String} (lawful : t.IsLawful c o.toOrder)
    (answer : t.answer = .error detail) : Fails c o (.transport o.operation detail) t.deeds
  /-- The response has the status that says that there is no such resource. -/
  | missing {t : Trip} {response : HttpResponse} (lawful : t.IsLawful c o.toOrder)
    (answer : t.answer = .ok response) (status : response.status = 404) :
    Fails c o (.notFound o.operation o.resource) t.deeds
  | rejected {t : Trip} {response : HttpResponse} (lawful : t.IsLawful c o.toOrder)
    (answer : t.answer = .ok response) (failure : response.isSuccess = false)
    (status : response.status ≠ 404) :
    Fails c o (.api o.operation response.status (errorText response)) t.deeds
  | unreadable {t : Trip} {response : HttpResponse} {e : CloudError}
    (lawful : t.IsLawful c o.toOrder) (answer : t.answer = .ok response)
    (success : response.isSuccess = true) (unread : o.read response = .error e) :
    Fails c o e t.deeds

/-- How an errand ends, and what is done until then. -/
inductive Ends (c : Client) (o : Errand α) : Ended α → List Deed → Prop
  | brought {t : Trip} {value : α} (brings : o.Brings c t value) :
    Ends c o (.finished (.ok value)) t.deeds
  | failed {e : CloudError} {done : List Deed} (fails : o.Fails c e done) :
    Ends c o (.finished (.error e)) done
  | crashed {x : Overflow} (lawful : x.IsLawful c) : Ends c o .crashed x.deeds

variable {c : Client} {o : Errand α} {t : Trip}

theorem ends_result {response : HttpResponse} (lawful : t.IsLawful c o.toOrder)
    (answer : t.answer = .ok response) : o.Ends c (.finished (o.result response)) t.deeds := by
  unfold result received
  split
  next success =>
    cases read : o.read response with
    | ok value => exact .brought ⟨lawful, response, answer, success, read⟩
    | error e => exact .failed (.unreadable lawful answer success read)
  next failure =>
    split
    next status => exact .failed (.missing lawful answer status)
    next status => exact .failed (.rejected lawful answer (Bool.eq_false_iff.mpr failure) status)

/-- After a visit the request is sent, if it can be put together, and what comes back is read. -/
theorem follows_exchange {visit : Visit} {token : Token} (lawful : visit.IsLawful c)
    (ends : visit.token = some token) :
    ((exchange o.operation (c.requestTo o.method o.path (some token.value) o.body)).andThen
      fun response => Operation.pure (o.result response)).Follows recording (o.Ends c)
        visit.deeds := by
  unfold exchange
  cases built : c.requestTo o.method o.path (some token.value) o.body with
  | error detail => exact .failed (.unsent lawful ends built)
  | ok request =>
      refine ⟨trivial, fun answer _ => ?_⟩
      let t : Trip := ⟨visit, request, answer⟩
      have lawful : t.IsLawful c o.toOrder := ⟨lawful, token, ends, built⟩
      cases answer with
      | error detail => exact .failed (@Fails.unanswered _ c o t detail lawful rfl)
      | ok response => exact @ends_result _ c o t response lawful rfl

/-- An errand ends in one of these ways. -/
theorem follows_run (c : Client) (o : Errand α) : (o.run c).Follows recording (o.Ends c) [] := by
  have same : o.run c = c.bearer.andThen fun value =>
      (exchange o.operation (c.requestTo o.method o.path (some value) o.body)).andThen
        fun response => Operation.pure (o.result response) := by
    refine (bind_bind _ _ _).trans (congrArg (Procedure.bind _) (funext ?_))
    rintro (- | (e | value)) <;> rfl
  rw [same]
  apply (bears_bearer c).bind
  intro result done bears
  cases bears with
  | visited lawful ends => exact follows_exchange lawful ends
  | refused refused => exact .failed (.unauthorized refused)
  | overflowed lawful => exact .crashed lawful

/-- What is made of the answer to the request. -/
def conclusion (o : Errand α) : Except String HttpResponse → Except CloudError α
  | .ok response => o.result response
  | .error detail => .error (.transport o.operation detail)

section Outcome

variable {result : Ended α} {done : List Deed} {e : CloudError}

theorem result_of_success {response : HttpResponse} (success : response.isSuccess = true) :
    o.result response = o.read response := if_pos success

theorem Brings.conclusion_eq {value : α} (h : o.Brings c t value) :
    o.conclusion t.answer = .ok value := by
  obtain ⟨response, answer, success, read⟩ := h.answered
  rw [answer]
  exact (result_of_success success).trans read

theorem result_of_missing {response : HttpResponse} (status : response.status = 404) :
    o.result response = .error (.notFound o.operation o.resource) := by
  have failure : ¬ response.isSuccess = true := by simp [HttpResponse.isSuccess, status]
  rw [Errand.result, received, if_neg failure, if_pos status]

theorem result_of_rejected {response : HttpResponse} (failure : response.isSuccess = false)
    (status : response.status ≠ 404) :
    o.result response = .error (.api o.operation response.status (errorText response)) := by
  rw [Errand.result, received, if_neg (Bool.eq_false_iff.mp failure), if_neg status]

/-- An errand that ends with an error has made a trip that brought the error, or has sent nothing
with a token. -/
theorem Fails.trip_or_unsent (h : o.Fails c e done) :
    (∃ t : Trip, t.IsLawful c o.toOrder ∧ done = t.deeds ∧ o.conclusion t.answer = .error e) ∨
      requests done = 0 := by
  cases h with
  | unauthorized refused => exact .inr refused.requests_eq_zero
  | unsent lawful => exact .inr (requests_visit lawful)
  | unanswered lawful answer => exact .inl ⟨_, lawful, rfl, by rw [answer]; rfl⟩
  | missing lawful answer status =>
      exact .inl ⟨_, lawful, rfl, by rw [answer]; exact result_of_missing status⟩
  | rejected lawful answer failure status =>
      exact .inl ⟨_, lawful, rfl, by rw [answer]; exact result_of_rejected failure status⟩
  | unreadable lawful answer success unread =>
      exact .inl ⟨_, lawful, rfl, by rw [answer]; exact (result_of_success success).trans unread⟩

theorem Ends.trip_or_unsent (h : o.Ends c result done) :
    (∃ t : Trip, t.IsLawful c o.toOrder ∧ done = t.deeds ∧
        result = .finished (o.conclusion t.answer)) ∨
      requests done = 0 := by
  cases h with
  | brought brings => exact .inl ⟨_, brings.lawful, rfl, by rw [brings.conclusion_eq]⟩
  | failed fails =>
      refine fails.trip_or_unsent.imp_left ?_
      rintro ⟨t, lawful, same, conclusion⟩
      exact ⟨t, lawful, same, by rw [conclusion]⟩
  | crashed lawful => exact .inr lawful.requests_eq_zero

/-- When an errand has made a trip, the answer to it decides how it ended. -/
theorem Ends.eq_conclusion (h : o.Ends c result done) {o' : Order} (lawful : t.IsLawful c o')
    (first : t.deeds <:+ done) : done = t.deeds ∧ result = .finished (o.conclusion t.answer) := by
  rcases h.trip_or_unsent with ⟨made, lawful', rfl, rfl⟩ | unsent
  · obtain ⟨same, answers⟩ := lawful.answer_eq lawful' first (List.suffix_refl _)
    exact ⟨same.symm, by rw [answers]⟩
  · have member : .sends t.request ∈ done := first.mem (by simp [Trip.deeds])
    exact absurd member (sends_not_mem unsent lawful.isSome_bearer)

/-- An errand crashes exactly when a token is granted for a time that cannot be represented. -/
theorem Ends.crashed_iff (h : o.Ends c result done) :
    result = .crashed ↔ ∃ x : Overflow, x.IsLawful c ∧ done = x.deeds := by
  constructor
  · rintro rfl
    cases h with
    | crashed lawful => exact ⟨_, lawful, rfl⟩
  · rintro ⟨x, lawful, same⟩
    cases h with
    | brought => cases same
    | failed fails =>
        cases fails with
        | unauthorized refused => exact absurd same (refused.ne_overflow x)
        | unsent => exact absurd same (deeds_visit_ne_overflow _ x)
        | _ => cases same
    | crashed => rfl

/-- An errand that has failed ends with an error. -/
theorem Ends.error_of_fails (h : o.Ends c result done) (fails : o.Fails c e done) :
    ∃ e', result = .finished (.error e') := by
  cases h with
  | brought brings =>
      have ended := (Ends.failed fails).eq_conclusion brings.lawful (List.suffix_refl _)
      rw [brings.conclusion_eq] at ended
      cases ended.2
  | failed => exact ⟨_, rfl⟩
  | crashed lawful => cases (Ends.failed fails).crashed_iff.mpr ⟨_, lawful, rfl⟩

/-- An errand that has brought a value ends with it. -/
theorem Ends.eq_of_brings (h : o.Ends c result done) {value : α} (brings : o.Brings c t value)
    (first : t.deeds <:+ done) : done = t.deeds ∧ result = .finished (.ok value) := by
  rw [← brings.conclusion_eq]
  exact h.eq_conclusion brings.lawful first

end Outcome

end Errand

end Client

end MachineProvider
