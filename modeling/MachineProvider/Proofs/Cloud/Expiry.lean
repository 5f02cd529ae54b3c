import MachineProvider.Proofs.Cloud.Creation
import MachineProvider.Proofs.Timestamp

/-!
# When a token expires

The cloud says for how many seconds it grants a token, with any number of 64 bits. A number below zero
counts as zero. At the other end there are two limits, since a span of time has 64 bits for its
milliseconds and a date has a last year; from every time that a clock can show, the last year is over
before the longest span is (`Token.expiry?_eq`). Nothing keeps the number below that limit: an
authentication crashes when the token is granted for longer, and otherwise the token that it records
expires so many seconds after it was granted (`Client.isDated_authenticate`).
-/

namespace MachineProvider

namespace Timestamp

/-- The point in time so many seconds later. A leap second is left behind as if it were the second
before. -/
def later (t : Timestamp) (span : Int) : Timestamp where
  seconds := t.seconds + span
  nanos := if span = 0 then t.nanos else t.nanos % nanosPerSecond

@[simp] theorem later_zero (t : Timestamp) : t.later 0 = t := by
  simp [later]

theorem IsCanonical.firstSecond_le {t : Timestamp} (h : t.IsCanonical) : firstSecond ≤ t.seconds := by
  have representable := h.representable
  simp only [isRepresentable, Bool.and_eq_true, decide_eq_true_eq] at representable
  exact representable.1

theorem IsCanonical.nanos_lt {t : Timestamp} (h : t.IsCanonical) : t.nanos < 2 * nanosPerSecond := by
  unfold nanosPerSecond
  rcases h.nanos with regular | ⟨leap, -⟩
  · unfold nanosPerSecond at regular
    omega
  · exact leap

/-- What is added to a time that a clock can show is limited by the last second only. -/
theorem addSeconds?_of_nonneg {t : Timestamp} (canonical : t.IsCanonical) {span : Int}
    (forward : 0 ≤ span) :
    t.addSeconds? span =
      if t.seconds + span ≤ lastSecond then some (t.later span) else none := by
  have first : firstSecond ≤ t.seconds := canonical.firstSecond_le
  have bounded : t.nanos < 2 * nanosPerSecond := canonical.nanos_lt
  have later_first : firstSecond ≤ t.seconds + span := by omega
  by_cases regular : t.nanos < nanosPerSecond
  · have moved : t.later span = ⟨t.seconds + span, t.nanos⟩ := by
      simp [later, Nat.mod_eq_of_lt regular]
    simp [addSeconds?, regular, moved, later_first]
  · by_cases still : span = 0
    · subst still
      simp [addSeconds?, first]
    · have moved : t.later span = ⟨t.seconds + span, t.nanos - nanosPerSecond⟩ := by
        have rest : t.nanos % nanosPerSecond = t.nanos - nanosPerSecond := by
          rw [Nat.mod_eq_sub_mod (Nat.not_lt.mp regular), Nat.mod_eq_of_lt (by omega)]
        simp [later, still, rest]
      have positive : 0 < span := by omega
      simp [addSeconds?, regular, still, positive, moved, later_first]

end Timestamp

/-- For how many seconds a token is granted. -/
def Message.TokenGrant.lifetime (g : TokenGrant) : Int :=
  max g.expiresIn.toInt 0

/-- From a time that a clock can show, a token can be granted until the last second. -/
theorem Token.expiry?_eq {now : Timestamp} (canonical : now.IsCanonical)
    (grant : Message.TokenGrant) :
    expiry? now grant.expiresIn =
      if now.seconds + grant.lifetime ≤ Timestamp.lastSecond then some (now.later grant.lifetime)
      else none := by
  have forward : 0 ≤ grant.lifetime := Int.le_max_right _ _
  change (if grant.lifetime ≤ maxLifetime then now.addSeconds? grant.lifetime else none) = _
  rw [Timestamp.addSeconds?_of_nonneg canonical forward]
  have first : Timestamp.firstSecond ≤ now.seconds := canonical.firstSecond_le
  -- The longest span is longer than the calendar.
  have longer : Timestamp.lastSecond - Timestamp.firstSecond < maxLifetime := by decide
  split
  next => rfl
  next long =>
    have late : ¬ now.seconds + grant.lifetime ≤ Timestamp.lastSecond := by omega
    rw [if_neg late]

namespace Client

open Message Procedure

/-- The tokens that were granted. -/
def grantsHeard (done : List Deed) : List TokenGrant :=
  done.filterMap fun
    | .hears (.ok response) => (granted response).toOption
    | _ => none

/-- What the clock showed. -/
def timesRead (done : List Deed) : List Timestamp :=
  done.filterMap fun
    | .reads now => some now
    | _ => none

/-- The new tokens that were put in place of the old ones. -/
def tokensPut (done : List Deed) : List Token :=
  done.filterMap fun
    | .puts fresh => fresh
    | _ => none

/-- Whether a token that is granted at a time expires after the last second. -/
def EndsTooLate (grant : TokenGrant) (now : Timestamp) : Prop :=
  Timestamp.lastSecond < now.seconds + grant.lifetime

instance (grant : TokenGrant) (now : Timestamp) : Decidable (EndsTooLate grant now) :=
  inferInstanceAs (Decidable (_ < _))

/-- The token that is put in place when it is granted at a time. -/
def tokenOf (grant : TokenGrant) (now : Timestamp) : Token where
  value := grant.accessToken
  expiresAt := now.later grant.lifetime

/-- Whether a client has asked for a token and was answered, if the request can be put together. -/
def HasAuthenticated (c : Client) (done : List Deed) : Prop :=
  ∀ request, c.tokenRequest = .ok request → ∃ answer, [.hears answer, .sends request] <:+ done

/-- What comes of an authentication, given the token that was granted and the time. -/
structure IsDated (c : Client) (result : Ended String) (done : List Deed) : Prop where
  asks : HasAuthenticated c done
  /-- The clock is read when a token was granted. -/
  timed : ∀ grant ∈ grantsHeard done, ∃ now, now ∈ timesRead done
  crashes : result = .crashed ↔
    ∃ grant ∈ grantsHeard done, ∃ now ∈ timesRead done, EndsTooLate grant now
  puts : ∀ token, token ∈ tokensPut done ↔
    ∃ grant ∈ grantsHeard done, ∃ now ∈ timesRead done,
      ¬ EndsTooLate grant now ∧ token = tokenOf grant now
  succeeds : ∀ value, result = .finished (.ok value) ↔
    ∃ token ∈ tokensPut done, value = token.value

section Dating

variable {c : Client} {done : List Deed} {grant : TokenGrant} {now : Timestamp}

theorem hasAuthenticated_of_suffix {request : HttpRequest} {answer : Except String HttpResponse}
    (built : c.tokenRequest = .ok request) (asked : [.hears answer, .sends request] <:+ done) :
    HasAuthenticated c done := by
  intro other built'
  cases built.symm.trans built'
  exact ⟨answer, asked⟩

theorem isDated_of_refused {e : CloudError} (asks : HasAuthenticated c done)
    (ungranted : grantsHeard done = []) (unchanged : tokensPut done = []) :
    IsDated c (.finished (.error e)) done where
  asks
  timed := by simp [ungranted]
  crashes := by simp [ungranted]
  puts := by simp [ungranted, unchanged]
  succeeds := by simp [unchanged]

theorem isDated_of_late (asks : HasAuthenticated c done) (granted : grantsHeard done = [grant])
    (read : timesRead done = [now]) (unchanged : tokensPut done = [])
    (late : EndsTooLate grant now) : IsDated c .crashed done where
  asks
  timed := by simp [read]
  crashes := by simp [granted, read, late]
  puts := by simp [granted, read, unchanged, late]
  succeeds := by simp [unchanged]

theorem isDated_of_inTime (asks : HasAuthenticated c done) (granted : grantsHeard done = [grant])
    (read : timesRead done = [now]) (recorded : tokensPut done = [tokenOf grant now])
    (inTime : ¬ EndsTooLate grant now) :
    IsDated c (.finished (.ok grant.accessToken)) done where
  asks
  timed := by simp [read]
  crashes := by simp [granted, read, inTime]
  puts := by simp [granted, read, recorded, inTime]
  succeeds := by simp [recorded, tokenOf, eq_comm]

/-- Whether an authentication is dated, provided that the clock shows times that there are. -/
def Dates (c : Client) (result : Ended String) (done : List Deed) : Prop :=
  (∀ now ∈ timesRead done, now.IsCanonical) → IsDated c result done

/-- The deeds of an authentication that was granted a token, the last one first. -/
def deedsOfGrant (request : HttpRequest) (response : HttpResponse) (now : Timestamp)
    (fresh : Option Token) : List Deed :=
  [.puts fresh, .reads now, .hears (.ok response), .sends request]

theorem dates_afterGrant {request : HttpRequest} {response : HttpResponse}
    (built : c.tokenRequest = .ok request) (grants : granted response = .ok grant) :
    (afterGrant grant now).Follows recording (Dates c)
      [.reads now, .hears (.ok response), .sends request] := by
  -- Whatever is put in place, one token was granted and the clock was read once.
  let after := deedsOfGrant request response now
  have asks (fresh : Option Token) : HasAuthenticated c (after fresh) :=
    hasAuthenticated_of_suffix built ⟨[.puts fresh, .reads now], rfl⟩
  have granted (fresh : Option Token) : grantsHeard (after fresh) = [grant] := by
    simp [after, deedsOfGrant, grantsHeard, grants, Except.toOption]
  have read (fresh : Option Token) : timesRead (after fresh) = [now] := rfl
  have canonical {fresh : Option Token} (shown : ∀ t ∈ timesRead (after fresh), t.IsCanonical) :
      now.IsCanonical := shown now (by simp [read])
  cases dates : Token.expiry? now grant.expiresIn with
  | none =>
      rw [afterGrant_of_not_dated dates]
      refine ⟨trivial, fun _ _ shown => ?_⟩
      have undated := dates.symm.trans (Token.expiry?_eq (canonical shown) grant)
      split at undated
      next => cases undated
      next late =>
        exact isDated_of_late (asks none) (granted none) (read none) rfl (Int.not_le.mp late)
  | some expiresAt =>
      rw [afterGrant_of_dated dates]
      refine ⟨trivial, fun _ _ shown => ?_⟩
      have dated := dates.symm.trans (Token.expiry?_eq (canonical shown) grant)
      split at dated
      next early =>
        cases dated
        exact isDated_of_inTime (asks _) (granted _) (read _) rfl (Int.not_lt.mpr early)
      next => cases dated

theorem dates_afterResponse {request : HttpRequest} (built : c.tokenRequest = .ok request)
    (answer : Except String HttpResponse) :
    (afterResponse answer).Follows recording (Dates c) [.hears answer, .sends request] := by
  have asks : HasAuthenticated c [.puts none, .hears answer, .sends request] :=
    hasAuthenticated_of_suffix built (List.suffix_cons _ _)
  cases answer with
  | error detail => exact ⟨trivial, fun _ _ _ => isDated_of_refused asks rfl rfl⟩
  | ok response =>
      cases grants : granted response with
      | error e =>
          rw [afterResponse_of_refused grants]
          refine ⟨trivial, fun _ _ _ => isDated_of_refused asks ?_ rfl⟩
          simp [recording, deeds, grantsHeard, grants, Except.toOption]
      | ok grant =>
          rw [afterResponse_of_granted grants]
          exact ⟨trivial, fun now _ => dates_afterGrant built grants⟩

theorem dates_authenticate (c : Client) : c.authenticate.Follows recording (Dates c) [] := by
  cases built : c.tokenRequest with
  | error detail =>
      have unbuilt (done : List Deed) : HasAuthenticated c done :=
        fun _ built' => nomatch built.symm.trans built'
      rw [authenticate_of_not_built built]
      exact ⟨trivial, fun _ _ _ => isDated_of_refused (unbuilt _) rfl rfl⟩
  | ok request =>
      rw [authenticate_of_built built]
      exact ⟨trivial, fun answer _ => dates_afterResponse built answer⟩

/-- However the questions of an authentication are answered, it asks for a token, and crashes exactly
when one is granted that expires after the last second. Any other token that is granted is put in
place, and expires as many seconds after the time that the clock shows as it was granted for. -/
theorem isDated_authenticate (c : Client) {σ : Type}
    (answer : (q : Question) → σ → Answer q × σ) (s : σ)
    (shown : ∀ now ∈ timesRead (c.authenticate.ran answer s).2, now.IsCanonical) :
    IsDated c (c.authenticate.ran answer s).1 (c.authenticate.ran answer s).2 :=
  ran_of_follows (dates_authenticate c) answer s shown

end Dating

section Sample

/-- In 2026 a token is granted for so many seconds. -/
def grantedFor (seconds : String) : Script where
  now := ⟨1767225600, 0⟩
  answers := [.ok ⟨200,
    some ("\x7b\"access_token\":\"abc\",\"expires_in\":" ++ seconds ++ "\x7d").toUTF8⟩]

/-- What comes of an authentication then, and what is done until then. -/
def ranFor (seconds : String) : Ended String × List Deed :=
  sample.authenticate.ran Script.answer (grantedFor seconds)

/-- A token for an hour is put in place, one for less than no time expires at once, and one for as long
as can be said crashes the client. -/
theorem crashes_of_endless_grant :
    ⟨"abc", ⟨1767229200, 0⟩⟩ ∈ tokensPut (ranFor "3600").2 ∧
      ⟨"abc", ⟨1767225600, 0⟩⟩ ∈ tokensPut (ranFor "-5").2 ∧
      (ranFor "9223372036854775807").1 = .crashed := by
  have canonical : Timestamp.IsCanonical ⟨1767225600, 0⟩ := ⟨by decide, .inl (by decide)⟩
  have heard (seconds : String) (grant : TokenGrant)
      (read : timesRead (ranFor seconds).2 = [⟨1767225600, 0⟩])
      (granted : grantsHeard (ranFor seconds).2 = [grant]) :
      ((ranFor seconds).1 = .crashed ↔ EndsTooLate grant ⟨1767225600, 0⟩) ∧
        ∀ token, token ∈ tokensPut (ranFor seconds).2 ↔
          ¬ EndsTooLate grant ⟨1767225600, 0⟩ ∧ token = tokenOf grant ⟨1767225600, 0⟩ := by
    have shown : ∀ now ∈ timesRead (ranFor seconds).2, now.IsCanonical := by
      rw [read]
      intro now member
      rwa [List.mem_singleton.mp member]
    have dated : IsDated sample (ranFor seconds).1 (ranFor seconds).2 :=
      isDated_authenticate sample Script.answer (grantedFor seconds) shown
    exact ⟨by simpa [granted, read] using dated.crashes,
      by simpa [granted, read] using dated.puts⟩
  refine ⟨?_, ?_, ?_⟩
  · have hour := heard "3600" ⟨"abc", none, 3600⟩ (by decide +kernel) (by decide +kernel)
    exact (hour.2 _).mpr ⟨by decide, by decide⟩
  · have less := heard "-5" ⟨"abc", none, -5⟩ (by decide +kernel) (by decide +kernel)
    exact (less.2 _).mpr ⟨by decide, by decide⟩
  · have endless := heard "9223372036854775807" ⟨"abc", none, 9223372036854775807⟩
      (by decide +kernel) (by decide +kernel)
    exact endless.1.mpr (by decide)

end Sample

end Client

end MachineProvider
