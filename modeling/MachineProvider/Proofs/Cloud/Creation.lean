import MachineProvider.Proofs.Cloud.Errand
import MachineProvider.Proofs.Cloud.Sharing

/-!
# The ID of a new instance

Creating an instance is two errands: the request for the instance and, once the cloud has accepted
that and given it an ID, a look at the instance. `Client.KeepsId` says what comes of it. There is
never a second request for an instance, and an ID that was given comes back, with the instance or
with what is known of it. The one exception is that the token for the look is granted for a time
that cannot be represented: then the operation crashes, and the ID is lost
(`Client.id_lost_of_endless_token`).
-/

namespace MachineProvider.Client

open Procedure

/-- The request for an instance, which brings its ID. -/
def creation (r : InstanceRequest) : Errand String :=
  .ofBody
    { operation := "create instance " ++ r.name
      resource := "instances"
      method := .post
      path := "/instances"
      body := some (Message.createInstance r) }
    Message.createdId?

/-- The look at an instance. -/
def lookUp (id : String) : Errand Instance :=
  .ofBody
    { operation := "get instance " ++ id
      resource := "instance " ++ id
      method := .get
      path := "/instances/" ++ id
      body := none }
    Message.instance?

/-- What creating an instance gives back after a look at it. -/
def kept (r : InstanceRequest) (id : String) : Ended Instance → Ended Instance
  | .crashed => .crashed
  | .finished (.ok found) => .finished (.ok found)
  | .finished (.error _) => .finished (.ok (provisioning r id))

/-- How creating an instance ends, and what is done until then. -/
inductive Creates (c : Client) (r : InstanceRequest) : Ended Instance → List Deed → Prop
  | failed {e : CloudError} {done : List Deed} (fails : (creation r).Fails c e done) :
    Creates c r (.finished (.error e)) done
  | crashed {x : Overflow} (lawful : x.IsLawful c) : Creates c r .crashed x.deeds
  | accepted {t : Trip} {id : String} {looked : Ended Instance} {back : List Deed}
    (accepts : (creation r).Brings c t id) (ends : (lookUp id).Ends c looked back) :
    Creates c r (kept r id looked) (back ++ t.deeds)

/-- Creating an instance ends in one of these ways. -/
theorem creates_createInstance (c : Client) (r : InstanceRequest) :
    (c.createInstance r).Follows recording (Creates c r) [] := by
  change (Procedure.bind ((creation r).run c) _).Follows recording (Creates c r) []
  apply ((creation r).follows_run c).bind
  intro ended done ends
  cases ends with
  | failed fails => exact .failed fails
  | crashed lawful => exact .crashed lawful
  | @brought t id brings =>
      change (Procedure.bind ((lookUp id).run c) _).Follows recording (Creates c r) t.deeds
      apply (follows_after ((lookUp id).follows_run c) t.deeds).bind
      rintro looked _ ⟨back, rfl, ends⟩
      have accepted : Creates c r (kept r id looked) (back ++ t.deeds) := .accepted brings ends
      rcases looked with - | (e | found) <;> exact accepted

/-- Whether a deed is to send a POST request with a token. -/
def Deed.isPost : Deed → Bool
  | sends request => request.bearer.isSome && request.method = .post
  | _ => false

/-- What comes of the look at an instance that was accepted with an ID. -/
structure ReadsBack (c : Client) (r : InstanceRequest) (id : String) (result : Ended Instance)
    (back : List Deed) : Prop where
  /-- The instance is given back when it was found. -/
  found : ∀ t i, (lookUp id).Brings c t i → back = t.deeds → result = .finished (.ok i)
  /-- Otherwise what is known of it is, for whatever reason the look failed. -/
  pending : ∀ e, (lookUp id).Fails c e back → result = .finished (.ok
    { id, name := r.name, state := .pending, instanceType := r.instanceType, image := r.image
      publicIp := none, privateIp := none, sshKey := r.sshKey, createdAt := none })
  /-- The ID is lost exactly when the token for the look is granted for a time that cannot be
  represented. -/
  lost : result = .crashed ↔ ∃ x : Overflow, x.IsLawful c ∧ back = x.deeds
  /-- There is no other way for the look to end. -/
  ends : ∃ looked, (lookUp id).Ends c looked back

/-- What comes of creating an instance. -/
structure KeepsId (c : Client) (r : InstanceRequest) (result : Ended Instance) (done : List Deed) :
    Prop where
  once : done.countP (·.isPost) ≤ 1
  /-- What is sent with a token, after a visit, is the request for the instance or, once that was
  accepted, the request to look at it. -/
  sends : ∀ request, .sends request ∈ done → request.bearer.isSome = true →
    (∃ t : Trip, t.IsLawful c (creation r).toOrder ∧ t.deeds <:+ done ∧ request = t.request) ∨
      ∃ (t look : Trip) (id : String), (creation r).Brings c t id ∧
        look.IsLawful c (lookUp id).toOrder ∧ done = look.deeds ++ t.deeds ∧ request = look.request
  accepted : ∀ t id, (creation r).Brings c t id → t.deeds <:+ done →
    ∃ back, done = back ++ t.deeds ∧ ReadsBack c r id result back
  /-- Without an ID nothing is done any more, and there is an error, unless the first token is
  granted for a time that cannot be represented. -/
  rejected : (¬ ∃ t id, (creation r).Brings c t id ∧ t.deeds <:+ done) →
    (∃ e, (creation r).Fails c e done ∧ result = .finished (.error e)) ∨
      ∃ x : Overflow, x.IsLawful c ∧ done = x.deeds ∧ result = .crashed

section Creation

variable {c : Client} {r : InstanceRequest} {result : Ended Instance} {done : List Deed} {α : Type}

theorem Deed.isRequest_of_isPost {deed : Deed} (h : deed.isPost = true) : deed.isRequest = true := by
  cases deed with
  | sends request => exact (Bool.and_eq_true_iff.mp h).1
  | _ => cases h

/-- Without a request there is no POST request. -/
theorem countP_isPost_of_unsent (unsent : requests done = 0) : done.countP (·.isPost) = 0 :=
  Nat.le_zero.mp (unsent ▸ List.countP_mono_left fun _ _ => Deed.isRequest_of_isPost)

theorem Trip.IsLawful.countP_isPost {o : Order} {t : Trip} (h : t.IsLawful c o) :
    t.deeds.countP (·.isPost) = if o.method = .post then 1 else 0 := by
  have visit := countP_isPost_of_unsent (requests_visit h.visit)
  rw [Trip.deeds, List.countP_cons, List.countP_cons, visit]
  simp [Deed.isPost, h.isSome_bearer, h.method]

/-- An errand sends one POST request at most, and none unless that is its method. -/
theorem Errand.Ends.countP_isPost_le {o : Errand α} {ended : Ended α} (h : o.Ends c ended done) :
    done.countP (·.isPost) ≤ if o.method = .post then 1 else 0 := by
  rcases h.trip_or_unsent with ⟨t, lawful, rfl, -⟩ | unsent
  · exact lawful.countP_isPost.le
  · rw [countP_isPost_of_unsent unsent]
    exact Nat.zero_le _

/-- An errand sends nothing but its request with a token. -/
theorem Errand.Ends.exists_trip {o : Errand α} {ended : Ended α} (h : o.Ends c ended done)
    {request : HttpRequest} (member : .sends request ∈ done)
    (bearer : request.bearer.isSome = true) :
    ∃ t : Trip, t.IsLawful c o.toOrder ∧ done = t.deeds ∧ request = t.request := by
  rcases h.trip_or_unsent with ⟨t, lawful, rfl, -⟩ | unsent
  · exact ⟨t, lawful, rfl, lawful.eq_of_sends member bearer⟩
  · exact absurd member (sends_not_mem unsent bearer)

theorem Errand.Ends.readsBack {id : String} {looked : Ended Instance} {back : List Deed}
    (h : (lookUp id).Ends c looked back) : ReadsBack c r id (kept r id looked) back where
  found t i brings same := by
    subst same
    rw [(h.eq_of_brings brings (List.suffix_refl _)).2]
    rfl
  pending e fails := by
    obtain ⟨e', rfl⟩ := h.error_of_fails fails
    rfl
  lost := by
    rw [← h.crashed_iff]
    rcases looked with - | (e | i) <;> simp [kept]
  ends := ⟨looked, h⟩

/-- What is done when no ID is brought. -/
theorem keepsId_of_ends {ended : Ended String} (ends : (creation r).Ends c ended done)
    (none : ∀ t id, (creation r).Brings c t id → ¬ t.deeds <:+ done)
    (rejected : (∃ e, (creation r).Fails c e done ∧ result = .finished (.error e)) ∨
      ∃ x : Overflow, x.IsLawful c ∧ done = x.deeds ∧ result = .crashed) :
    KeepsId c r result done where
  once := ends.countP_isPost_le
  sends request member bearer := by
    obtain ⟨t, lawful, rfl, same⟩ := ends.exists_trip member bearer
    exact .inl ⟨t, lawful, List.suffix_refl _, same⟩
  accepted t id brings first := absurd first (none t id brings)
  rejected _ := rejected

theorem Creates.keepsId (h : Creates c r result done) : KeepsId c r result done := by
  cases h with
  | failed fails =>
      have ends := Errand.Ends.failed fails
      refine keepsId_of_ends ends (fun t id brings first => ?_) (.inl ⟨_, fails, rfl⟩)
      cases (ends.eq_of_brings brings first).2
  | crashed lawful =>
      have ends : (creation r).Ends c .crashed _ := .crashed lawful
      refine keepsId_of_ends ends (fun t id brings first => ?_) (.inr ⟨_, lawful, rfl, rfl⟩)
      cases (ends.eq_of_brings brings first).2
  | @accepted t id looked back accepts ends =>
      have first : t.deeds <:+ back ++ t.deeds := List.suffix_append _ _
      refine ⟨?_, fun request member bearer => ?_, fun t' id' accepts' first' => ?_, ?_⟩
      · rw [List.countP_append, accepts.lawful.countP_isPost]
        exact Nat.add_le_add_right ends.countP_isPost_le 1
      · rcases List.mem_append.mp member with looks | sent
        · obtain ⟨look, lawful, rfl, same⟩ := ends.exists_trip looks bearer
          exact .inr ⟨t, look, id, accepts, lawful, rfl, same⟩
        · exact .inl ⟨t, accepts.lawful, first, accepts.lawful.eq_of_sends sent bearer⟩
      · -- The first trip is the only one that brings an ID.
        obtain ⟨same, answers⟩ := accepts'.lawful.answer_eq accepts.lawful first' first
        have ids := accepts'.conclusion_eq
        rw [answers, accepts.conclusion_eq] at ids
        cases ids
        exact ⟨back, by rw [same], ends.readsBack⟩
      · exact fun none => absurd ⟨t, id, accepts, first⟩ none

/-- Creating an instance sends one request for it at most. When the cloud has accepted that, the ID
of the instance comes back, unless the token for the look at the instance is granted for a time that
cannot be represented. -/
theorem keepsId_createInstance (c : Client) (r : InstanceRequest) {σ : Type}
    (answer : (q : Question) → σ → Answer q × σ) (s : σ) :
    KeepsId c r ((c.createInstance r).ran answer s).1 ((c.createInstance r).ran answer s).2 :=
  (ran_of_follows (creates_createInstance c r) answer s).keepsId

/-- What is posted to create an instance is the request for it. -/
theorem body_of_isPost (c : Client) (r : InstanceRequest) {σ : Type}
    (answer : (q : Question) → σ → Answer q × σ) (s : σ) {request : HttpRequest}
    (sent : .sends request ∈ ((c.createInstance r).ran answer s).2)
    (posted : (Deed.sends request).isPost = true) :
    request.body = some (Message.createInstance r) := by
  have kept := (ran_of_follows (creates_createInstance c r) answer s).keepsId
  have bearer := Deed.isRequest_of_isPost posted
  rcases kept.sends request sent bearer with ⟨t, lawful, -, rfl⟩ | ⟨-, look, id, -, lawful, -, rfl⟩
  · exact lawful.body
  · rw [Deed.isPost, lawful.method, Bool.and_eq_true_iff] at posted
    cases posted.2

end Creation

section Sample

/-- Whether an operation crashed can be computed. -/
instance {α : Type} (ended : Ended α) : Decidable (ended = .crashed) :=
  match ended with
  | .crashed => .isTrue rfl
  | .finished _ => .isFalse nofun

/-- A cached token, the time, and what the requests are answered one after the other. -/
structure Script where
  cached : Option Token := none
  now : Timestamp := ⟨0, 0⟩
  answers : List (Except String HttpResponse)

/-- Answers a question of an operation. -/
def Script.answer : (q : Question) → Script → Answer q × Script
  | .takeToken, s => (s.cached, s)
  | .putToken fresh, s => ((), { s with cached := fresh <|> s.cached })
  | .now, s => (s.now, s)
  | .exchange _, s => (s.answers.headD (.error bodyCutOff), { s with answers := s.answers.tail })

/-- The first token can be used only once, the instance is accepted, and the second token is granted
for ever. -/
def lossy : Script where
  answers := [
    .ok ⟨200, some "\x7b\"access_token\":\"abc\",\"expires_in\":0\x7d".toUTF8⟩,
    .ok ⟨201, some "\x7b\"id\":\"inst-9\"\x7d".toUTF8⟩,
    .ok ⟨200, some "\x7b\"access_token\":\"def\",\"expires_in\":9223372036854775807\x7d".toUTF8⟩]

/-- A request for an instance. -/
def sampleRequest : InstanceRequest where
  name := "worker-0"
  instanceType := "1xH100"
  image := "ubuntu"
  sshKey := none
  userData := none
  location := none
  metadata := .empty
  tags := .empty
  publicIp := false
  spotMaxPrice := none
  osVolume := none

/-- The IDs in the responses. -/
def idsHeard (done : List Deed) : List String :=
  done.filterMap fun
    | .hears (.ok response) => ((creation sampleRequest).read response).toOption
    | _ => none

/-- The cloud has accepted an instance, but its ID does not come back. -/
theorem id_lost_of_endless_token :
    let run := (sample.createInstance sampleRequest).ran Script.answer lossy
    (∃ t, (creation sampleRequest).Brings sample t "inst-9" ∧ t.deeds <:+ run.2) ∧
      run.1 = .crashed := by
  intro run
  have crashed : run.1 = .crashed := by decide +kernel
  have heard : idsHeard run.2 = ["inst-9"] := by decide +kernel
  have once : run.2.countP (·.isPost) = 1 := by decide +kernel
  have kept : KeepsId sample sampleRequest run.1 run.2 :=
    keepsId_createInstance sample sampleRequest Script.answer lossy
  obtain ⟨t, id, brings, first⟩ :
      ∃ t id, (creation sampleRequest).Brings sample t id ∧ t.deeds <:+ run.2 := by
    by_contra none
    rcases kept.rejected none with ⟨e, -, ended⟩ | ⟨x, lawful, same, -⟩
    · cases crashed.symm.trans ended
    · have unsent : run.2.countP (·.isPost) = 0 := by
        rw [same]
        exact countP_isPost_of_unsent lawful.requests_eq_zero
      cases once.symm.trans unsent
  have member : id ∈ idsHeard run.2 := by
    obtain ⟨response, answer, -, read⟩ := brings.answered
    refine List.mem_filterMap.mpr ⟨.hears t.answer, first.mem List.mem_cons_self, ?_⟩
    rw [answer]
    exact congrArg Except.toOption read
  rw [heard, List.mem_singleton] at member
  subst member
  exact ⟨⟨t, brings, first⟩, crashed⟩

end Sample

end MachineProvider.Client
