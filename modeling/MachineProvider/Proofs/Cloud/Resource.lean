import MachineProvider.Proofs.Cloud.Failure
import MachineProvider.Proofs.Cloud.Url
import MachineProvider.ProviderId

/-!
# The resource of an instance

An instance is addressed by its ID, which stands in the path of the request. Whether different IDs
have different resources depends on what the IDs are (`Client.Addresses`): IDs that are segments are
told apart when they are written differently, and plain IDs, which are written as they are, always.
An ID that is not plain has the resource of a plain one, or none of its own.
-/

namespace MachineProvider.Client

/-- What is done with an instance that is known by its ID. -/
inductive InstanceAction where
  | look
  | delete
  | start
  | stop
  deriving DecidableEq

namespace InstanceAction

/-- The operation for an action. -/
def call : InstanceAction → String → Call
  | look => .getInstance
  | delete => .deleteInstance
  | start => .startInstance
  | stop => .stopInstance

/-- What follows the ID in the path. -/
def suffix : InstanceAction → String
  | look => ""
  | delete => ""
  | start => "/start"
  | stop => "/stop"

end InstanceAction

/-- Whether an operation may send a request with a token that asks for a target. -/
def Call.Sends (call : Call) (c : Client) (target : String) : Prop :=
  ∃ (σ : Type) (answer : (q : Question) → σ → Answer q × σ) (s : σ) (request : HttpRequest),
    .sends request ∈ ((call.conclude c).ran answer s).2 ∧ request.bearer.isSome = true ∧
      request.target = target

section Sending

variable {c : Client} {α : Type} {target : String}

theorem target_of_requestTo {method : HttpMethod} {path : String} {bearer : Option String}
    {body : Option Json} {request : HttpRequest}
    (h : c.requestTo method path bearer body = .ok request) :
    ∃ url, Url.parse? (c.baseUrl ++ path) = some url ∧ url.target = request.target := by
  unfold requestTo at h
  split at h
  · cases h
  next url parsed =>
    split at h
    · cases h
      exact ⟨url, parsed, rfl⟩
    · cases h

theorem requestTo_of_parse? {method : HttpMethod} {path bearer : String} {body : Option Json}
    {url : Url} (parsed : Url.parse? (c.baseUrl ++ path) = some url)
    (sendable : isHeaderValue bearer = true) :
    c.requestTo method path (some bearer) body =
      .ok { method, authority := url.authority, target := url.target, bearer, body } := by
  unfold requestTo
  rw [parsed]
  exact if_pos sendable

open Procedure in
/-- With a token that can be used, an errand sends its request. -/
theorem sends_of_errand (o : Errand α) {url : Url}
    (parsed : Url.parse? (c.baseUrl ++ o.path) = some url) :
    ∃ request, .sends request ∈
        ((forget (o.run c)).ran Script.answer { cached := some hourly, answers := [] }).2 ∧
      request.bearer.isSome = true ∧ request.target = url.target := by
  let start : Script × List Deed := ({ cached := some hourly, answers := [] }, [])
  let look : List Deed := [.puts none, .reads ⟨0, 0⟩, .takes (some hourly)]
  have built : c.requestTo o.method o.path (some hourly.value) o.body = .ok _ :=
    requestTo_of_parse? parsed (by decide)
  have visited : c.bearer.run (listing Script.answer) start =
      (.finished (.ok hourly.value), start.1, look) := rfl
  unfold Operation.ran forget Errand.run send Operation.andThen
  rw [run_bind, run_bind, run_bind, visited]
  dsimp only
  rw [built]
  exact ⟨_, List.mem_cons_of_mem _ List.mem_cons_self, rfl, rfl⟩

/-- An errand asks for the target of its address, and for nothing else. -/
theorem exists_sends_errand_iff (o : Errand α) :
    (∃ (σ : Type) (answer : (q : Question) → σ → Answer q × σ) (s : σ) (request : HttpRequest),
        .sends request ∈ ((forget (o.run c)).ran answer s).2 ∧ request.bearer.isSome = true ∧
          request.target = target) ↔
      ∃ url, Url.parse? (c.baseUrl ++ o.path) = some url ∧ url.target = target := by
  constructor
  · rintro ⟨σ, answer, s, request, member, bearer, rfl⟩
    have follows : (forget (o.run c)).Follows recording
        (fun _ done => ∃ ended, o.Ends c ended done) [] :=
      (o.follows_run c).bind fun ended done ends => ⟨ended, ends⟩
    obtain ⟨ended, ends⟩ := ran_of_follows follows answer s
    obtain ⟨t, lawful, -, rfl⟩ := ends.exists_trip member bearer
    obtain ⟨token, -, built⟩ := lawful.sent
    exact target_of_requestTo built
  · rintro ⟨url, parsed, rfl⟩
    exact ⟨_, _, _, sends_of_errand o parsed⟩

/-- An operation on an instance asks for the target of an address with the ID in it. -/
theorem InstanceAction.sends_iff (a : InstanceAction) (id : String) :
    (a.call id).Sends c target ↔
      ∃ url, Url.parse? (c.baseUrl ++ "/" ++ ("instances/" ++ id ++ a.suffix)) = some url ∧
        url.target = target := by
  have path (rest : String) : c.baseUrl ++ "/" ++ ("instances/" ++ id ++ rest) =
      c.baseUrl ++ ("/instances/" ++ id ++ rest) := by
    have slash : "/instances/" = "/" ++ "instances/" := rfl
    rw [slash]
    simp only [String.append_assoc]
  rw [path]
  cases a with
  | look =>
      rw [suffix, String.append_empty]
      exact exists_sends_errand_iff (lookUp id)
  | delete =>
      rw [suffix, String.append_empty]
      exact exists_sends_errand_iff (Errand.ofStatus
        ⟨"delete instance " ++ id, "instance " ++ id, .delete, "/instances/" ++ id, none⟩)
  | start =>
      exact exists_sends_errand_iff (Errand.ofStatus
        ⟨"start instance " ++ id, "instance " ++ id, .post, "/instances/" ++ id ++ "/start", none⟩)
  | stop =>
      exact exists_sends_errand_iff (Errand.ofStatus
        ⟨"stop instance " ++ id, "instance " ++ id, .post, "/instances/" ++ id ++ "/stop", none⟩)

end Sending

/-- The path of the instances. -/
def instancesPath (path : List String) : String :=
  String.join ((path ++ ["instances"]).map ("/" ++ ·))

/-- Whether a target is one segment below the instances, with what belongs to the action. -/
def IsBelow (path : List String) (a : InstanceAction) (target : String) : Prop :=
  ∃ segment : String, segment ≠ "" ∧
    '/' ∉ segment.toList ∧ '?' ∉ segment.toList ∧ '#' ∉ segment.toList ∧
    target = instancesPath path ++ "/" ++ segment ++ a.suffix

/-- Whether two IDs have resources of their own. -/
structure Separates (c : Client) (path : List String) (id other : String) : Prop where
  below : ∀ a target, (InstanceAction.call a id).Sends c target → IsBelow path a target
  below_other : ∀ a target, (InstanceAction.call a other).Sends c target → IsBelow path a target
  apart : ∀ a a' target target', (InstanceAction.call a id).Sends c target →
    (InstanceAction.call a' other).Sends c target' → target ≠ target'

/-- Whether an ID is one segment of a path, and nothing of it is left out. -/
structure IsSegment (id : String) : Prop where
  nonempty : id ≠ ""
  inner : ∀ c ∈ id.toList, Url.isSlash c = false ∧ Url.endsPath c = false ∧ Url.isKept c = true
  last : ∀ c ∈ id.toList.getLast?, Url.isEdge c = false
  noDots : ¬ Url.IsDots id.toList

/-- Whether an ID is a segment that is written as it is. -/
structure IsPlain (id : String) : Prop where
  nonempty : id ≠ ""
  settled : Url.IsSettled id

instance (id : String) : Decidable (IsPlain id) :=
  decidable_of_iff (id ≠ "" ∧ Url.IsSettled id) ⟨fun h => ⟨h.1, h.2⟩, fun h => ⟨h.1, h.2⟩⟩

/-- An ID as it is written in a path. -/
def writtenId (id : String) : String :=
  String.ofList (Url.written id.toList)

/-- What the IDs of instances address. -/
structure Addresses (c : Client) (path : List String) : Prop where
  /-- For each ID an operation asks for one target. -/
  one : ∀ a id, ∃ target, ∀ target', (InstanceAction.call a id).Sends c target' ↔ target' = target
  /-- Segments are told apart when they are written differently. -/
  segments : ∀ id other, IsSegment id → IsSegment other →
    (Separates c path id other ↔ writtenId id ≠ writtenId other)
  /-- Different segments without percent signs are told apart. -/
  literal : ∀ id other, IsSegment id → IsSegment other → '%' ∉ id.toList → '%' ∉ other.toList →
    id ≠ other → Separates c path id other
  /-- A plain ID is told apart from all other plain ones, and only a plain ID is. -/
  plain : ∀ id, IsPlain id ↔ ∀ other, IsPlain other → other ≠ id → Separates c path id other
  /-- Every ID has the resource of another one, for looking at it and for deleting it. -/
  shared : ∀ id, ∃ other, other ≠ id ∧ ∀ target,
    ((Call.getInstance other).Sends c target ↔ (Call.getInstance id).Sends c target) ∧
      ((Call.deleteInstance other).Sends c target ↔ (Call.deleteInstance id).Sends c target)

section Places

variable {c : Client} {isSecure : Bool} {authority : String} {path : List String}
  {a : InstanceAction} {id target : String}

/-- What of an ID and its suffix counts in an address. -/
def tail (a : InstanceAction) (id : String) : List Char :=
  Url.ending (id ++ a.suffix).toList

/-- The path of the address of an instance. -/
def placePath (path : List String) (a : InstanceAction) (id : String) : List String :=
  Url.readPath (path ++ ["instances"]) [] ((tail a id).takeWhile (!Url.endsPath ·))

/-- What is asked for with the address of an instance. -/
def place (path : List String) (a : InstanceAction) (id : String) : List Char :=
  Url.joined (placePath path a id) ++
    (Url.query? ((tail a id).dropWhile (!Url.endsPath ·))).elim [] fun query => '?' :: query.toList

theorem readPath_instances (path : List String) (rest : List Char) :
    Url.readPath path [] ("instances".toList ++ '/' :: rest) =
      Url.readPath (path ++ ["instances"]) [] rest := by
  have settled : Url.IsSettled "instances" := by decide
  have segment : Url.readDirectory path [] "instances".toList = path ++ ["instances"] := by
    rw [Url.readDirectory_unslashed settled.unslashed, List.nil_append,
      Url.appendSegment_of_not_isDots settled.noDots]
    rfl
  rw [Url.readPath_slash, segment]

theorem ending_instances (a : InstanceAction) (id : String) :
    Url.ending ("instances/" ++ id ++ a.suffix).toList =
      "instances".toList ++ '/' :: tail a id := by
  have chars : ("instances/" ++ id ++ a.suffix).toList =
      "instances".toList ++ '/' :: (id ++ a.suffix).toList := by
    simp [String.toList_append]
  rw [chars, Url.ending, Url.rdropWhile_append_cons (by decide), List.filter_append,
    List.filter_cons_of_pos (by decide), tail, Url.ending]
  rfl

/-- The address of an instance asks for its place. -/
theorem sends_iff_place (h : Url.Leads c.baseUrl isSecure authority path) :
    (a.call id).Sends c target ↔ target.toList = place path a id := by
  have kept : ∀ d ∈ "instances".toList ++ ['/'], (!Url.endsPath d) = true :=
    List.all_eq_true.mp (by decide)
  have parsed := Url.parse?_below h ("instances/" ++ id ++ a.suffix)
  rw [ending_instances, List.append_cons "instances".toList, List.takeWhile_append_of_pos kept,
    List.dropWhile_append_of_pos kept, ← List.append_cons, readPath_instances] at parsed
  rw [InstanceAction.sends_iff, parsed]
  constructor
  · rintro ⟨_, ⟨⟩, rfl⟩
    exact Url.toList_target _
  · intro same
    refine ⟨_, rfl, String.toList_injective ?_⟩
    rw [same]
    exact Url.toList_target _

theorem toList_instancesPath (path : List String) :
    (instancesPath path).toList = Url.joined (path ++ ["instances"]) := by
  rw [instancesPath, String.toList_join, Url.joined, List.flatMap_map]
  exact List.flatMap_congr fun s _ => by simp [String.toList_append]

theorem joined_append (path other : List String) :
    Url.joined (path ++ other) = Url.joined path ++ Url.joined other :=
  List.flatMap_append

theorem tail_of_isSegment (h : IsSegment id) : tail a id = id.toList ++ a.suffix.toList := by
  have trimmed : (id.toList ++ a.suffix.toList).rdropWhile Url.isEdge =
      id.toList ++ a.suffix.toList := by
    have whole : (id.toList ++ []).rdropWhile Url.isEdge = id.toList ++ [] := by
      rw [List.append_nil, List.rdropWhile_eq_self_iff]
      exact fun some => Bool.eq_false_iff.mp (h.last _ (List.getLast_mem_getLast? some))
    cases a with
    | look => exact whole
    | delete => exact whole
    | start => exact Url.rdropWhile_append_cons (by decide) id.toList "start".toList
    | stop => exact Url.rdropWhile_append_cons (by decide) id.toList "stop".toList
  rw [tail, Url.ending, String.toList_append, trimmed, List.filter_eq_self]
  intro c member
  rcases List.mem_append.mp member with within | behind
  · exact (h.inner c within).2.2
  · have kept : ∀ c ∈ a.suffix.toList, Url.isKept c = true :=
      List.all_eq_true.mp (by cases a <;> decide)
    exact kept c behind

/-- A segment is written behind the path of the instances, and its suffix behind it. -/
theorem joined_readPath_of_isSegment (h : IsSegment id) (path : List String) :
    Url.joined (Url.readPath path [] (id.toList ++ a.suffix.toList)) =
      Url.joined path ++ '/' :: Url.written id.toList ++ a.suffix.toList := by
  have unslashed : ∀ c ∈ id.toList, Url.isSlash c = false := fun c member => (h.inner c member).1
  have last : Url.joined (Url.readPath path [] (id.toList ++ [])) =
      Url.joined path ++ '/' :: Url.written id.toList ++ [] := by
    rw [List.append_nil, Url.readPath_unslashed unslashed, List.nil_append,
      Url.appendSegment_of_not_isDots h.noDots, joined_append]
    simp [Url.joined]
  have before (word : String) (settled : Url.IsSettled word) :
      Url.joined (Url.readPath path [] (id.toList ++ '/' :: word.toList)) =
        Url.joined path ++ '/' :: Url.written id.toList ++ '/' :: word.toList := by
    rw [Url.readPath_slash, Url.readDirectory_unslashed unslashed,
      Url.readPath_unslashed settled.unslashed, List.nil_append, List.nil_append,
      Url.appendSegment_of_not_isDots h.noDots, Url.appendSegment_of_not_isDots settled.noDots,
      joined_append, joined_append]
    simp [Url.joined, settled.written_eq]
  cases a with
  | look => exact last
  | delete => exact last
  | start => exact before "start" (by decide)
  | stop => exact before "stop" (by decide)

theorem place_of_isSegment (h : IsSegment id) :
    place path a id = (instancesPath path ++ "/" ++ writtenId id ++ a.suffix).toList := by
  have kept : ∀ c ∈ id.toList ++ a.suffix.toList, (!Url.endsPath c) = true := by
    intro c member
    rcases List.mem_append.mp member with within | behind
    · rw [(h.inner c within).2.1]
      rfl
    · have kept : ∀ c ∈ a.suffix.toList, (!Url.endsPath c) = true :=
        List.all_eq_true.mp (by cases a <;> decide)
      exact kept c behind
  rw [place, placePath, tail_of_isSegment h, List.takeWhile_eq_self_iff.mpr kept,
    List.dropWhile_eq_nil_iff.mpr kept, joined_readPath_of_isSegment h]
  simp [String.toList_append, toList_instancesPath, writtenId, Url.query?]

end Places

section Facts

variable {c : Client} {isSecure : Bool} {authority : String} {path : List String}
  {id other : String}

/-- What is asked for with a segment. -/
theorem IsSegment.sends_iff (h : IsSegment id) (leads : Url.Leads c.baseUrl isSecure authority path)
    {a : InstanceAction} {target : String} :
    (a.call id).Sends c target ↔
      target = instancesPath path ++ "/" ++ writtenId id ++ a.suffix := by
  rw [sends_iff_place leads, place_of_isSegment h, String.toList_inj]

theorem IsSegment.isLiteral_written (h : IsSegment id) :
    ∀ d ∈ (writtenId id).toList, Url.isLiteral d = true := by
  rw [writtenId, String.toList_ofList]
  exact fun d => Url.isLiteral_of_mem_written fun c member => (h.inner c member).1

theorem IsSegment.isBelow (h : IsSegment id) (path : List String) (a : InstanceAction) :
    IsBelow path a (instancesPath path ++ "/" ++ writtenId id ++ a.suffix) := by
  refine ⟨writtenId id, ?_, Url.not_mem_of_isLiteral h.isLiteral_written (by decide),
    Url.not_mem_of_isLiteral h.isLiteral_written (by decide),
    Url.not_mem_of_isLiteral h.isLiteral_written (by decide), rfl⟩
  rw [writtenId, ← String.toList_eq_nil_iff.ne, String.toList_ofList]
  exact Url.written_ne_nil (String.toList_eq_nil_iff.ne.mpr h.nonempty)

/-- The segment can be read off what is asked for. -/
theorem IsSegment.takeWhile_written (h : IsSegment id) (a : InstanceAction) :
    ((writtenId id).toList ++ a.suffix.toList).takeWhile (· ≠ '/') = (writtenId id).toList := by
  have kept : ∀ d ∈ (writtenId id).toList, decide (d ≠ '/') = true := fun d member =>
    decide_eq_true (Url.ne_of_isLiteral (h.isLiteral_written d member) (by decide))
  rw [List.takeWhile_append_of_pos kept]
  cases a <;> simp [InstanceAction.suffix]

/-- Segments are told apart when they are written differently. -/
theorem separates_iff (leads : Url.Leads c.baseUrl isSecure authority path) (h : IsSegment id)
    (h' : IsSegment other) : Separates c path id other ↔ writtenId id ≠ writtenId other := by
  constructor
  · intro separates same
    have sends : (InstanceAction.look.call other).Sends c _ := (h'.sends_iff leads).mpr rfl
    rw [← same] at sends
    exact separates.apart .look .look _ _ ((h.sends_iff leads).mpr rfl) sends rfl
  · intro differ
    constructor
    · intro a target sends
      rw [(h.sends_iff leads).mp sends]
      exact h.isBelow path a
    · intro a target sends
      rw [(h'.sends_iff leads).mp sends]
      exact h'.isBelow path a
    · rintro a a' target target' sends sends' rfl
      rw [h.sends_iff leads] at sends
      rw [h'.sends_iff leads, sends] at sends'
      have chars := congrArg String.toList sends'
      simp only [String.toList_append, List.append_assoc] at chars
      have rests := List.append_cancel_left (List.append_cancel_left chars)
      have segments := congrArg (List.takeWhile (· ≠ '/')) rests
      rw [h.takeWhile_written, h'.takeWhile_written] at segments
      exact differ (String.toList_injective segments)

theorem IsPlain.isSegment (h : IsPlain id) : IsSegment id := by
  refine ⟨h.nonempty, fun d member => ?_, fun d member => ?_, h.settled.noDots⟩
  · have literal := h.settled.literal d member
    exact ⟨Url.isSlash_of_isLiteral literal, Url.endsPath_of_isLiteral literal,
      Url.isKept_of_isLiteral literal⟩
  · exact Url.isEdge_of_isLiteral (h.settled.literal d (List.mem_of_mem_getLast? member))

/-- A plain ID is written as it is. -/
theorem IsPlain.writtenId_eq (h : IsPlain id) : writtenId id = id := by
  rw [writtenId, h.settled.written_eq, String.ofList_toList]

theorem isSettled_path (leads : Url.Leads c.baseUrl isSecure authority path) :
    ∀ s ∈ path ++ ["instances"], Url.IsSettled s := by
  obtain ⟨query, parsed⟩ := leads.parsed
  intro s member
  rcases List.mem_append.mp member with above | last
  · exact Url.isSettled_of_parse? parsed s (List.mem_append_left _ above)
  · rw [List.mem_singleton.mp last]
    decide

theorem isSettled_placePath (leads : Url.Leads c.baseUrl isSecure authority path)
    (a : InstanceAction) (id : String) : ∀ s ∈ placePath path a id, Url.IsSettled s :=
  Url.isSettled_readPath (isSettled_path leads) nofun

/-- When a path is asked for and no query, it is the path of the address. -/
theorem placePath_eq (leads : Url.Leads c.baseUrl isSecure authority path) {a : InstanceAction}
    {known : List String} (plain : ∀ s ∈ known, '/' ∉ s.toList ∧ '?' ∉ s.toList)
    (asked : Url.joined known = place path a id) : placePath path a id = known := by
  rw [place] at asked
  cases query : Url.query? ((tail a id).dropWhile (!Url.endsPath ·)) with
  | none =>
      rw [query, Option.elim_none, List.append_nil] at asked
      have unslashed : ∀ s ∈ placePath path a id, '/' ∉ s.toList := fun s member =>
        Url.not_mem_of_isLiteral (isSettled_placePath leads a id s member).literal (by decide)
      exact (Url.joined_injective (fun s member => (plain s member).1) unslashed asked).symm
  | some query' =>
      have mark : '?' ∈ Url.joined known := by
        rw [asked, query]
        exact List.mem_append_right _ List.mem_cons_self
      rcases Url.mem_joined mark with slash | ⟨s, member, within⟩
      · cases slash
      · exact absurd within (plain s member).2

/-- An ID with a resource of its own has that of a plain one. -/
theorem exists_isPlain_of_isBelow (leads : Url.Leads c.baseUrl isSecure authority path)
    {target : String} (sends : (InstanceAction.look.call id).Sends c target)
    (below : IsBelow path .look target) :
    ∃ other, IsPlain other ∧ (InstanceAction.look.call other).Sends c target := by
  obtain ⟨segment, nonempty, unslashed, unasked, -, rfl⟩ := below
  have known : ∀ s ∈ path ++ ["instances"] ++ [segment], '/' ∉ s.toList ∧ '?' ∉ s.toList := by
    intro s member
    rcases List.mem_append.mp member with above | last
    · have literal := (isSettled_path leads s above).literal
      exact ⟨Url.not_mem_of_isLiteral literal (by decide),
        Url.not_mem_of_isLiteral literal (by decide)⟩
    · rw [List.mem_singleton.mp last]
      exact ⟨unslashed, unasked⟩
  have chars : (instancesPath path ++ "/" ++ segment ++ InstanceAction.look.suffix).toList =
      Url.joined (path ++ ["instances"] ++ [segment]) := by
    rw [joined_append, ← toList_instancesPath]
    simp [String.toList_append, Url.joined, InstanceAction.suffix]
  have asked := (sends_iff_place leads).mp sends
  have same := placePath_eq leads known (chars.symm.trans asked)
  have plain : IsPlain segment := by
    refine ⟨nonempty, isSettled_placePath leads .look id segment ?_⟩
    rw [same]
    exact List.mem_append_right _ (List.mem_singleton_self _)
  refine ⟨segment, plain, (plain.isSegment.sends_iff leads).mpr ?_⟩
  rw [plain.writtenId_eq]

/-- A plain ID is told apart from all other plain ones, and only a plain ID is. -/
theorem isPlain_iff (leads : Url.Leads c.baseUrl isSecure authority path) :
    IsPlain id ↔ ∀ other, IsPlain other → other ≠ id → Separates c path id other := by
  constructor
  · intro h other h' differ
    rw [separates_iff leads h.isSegment h'.isSegment, h.writtenId_eq, h'.writtenId_eq]
    exact differ.symm
  · intro apart
    have sends : (InstanceAction.look.call id).Sends c (String.ofList (place path .look id)) :=
      (sends_iff_place leads).mpr String.toList_ofList
    -- There are plain IDs to tell this one apart from.
    obtain ⟨one, plain, differs⟩ : ∃ one, IsPlain one ∧ one ≠ id := by
      by_cases same : "x" = id
      · exact ⟨"y", by decide, by rw [← same]; decide⟩
      · exact ⟨"x", by decide, same⟩
    have below := (apart one plain differs).below .look _ sends
    obtain ⟨other, h', sends'⟩ := exists_isPlain_of_isBelow leads sends below
    by_cases same : other = id
    · rwa [← same]
    · exact absurd rfl ((apart other h' same).apart .look .look _ _ sends sends')

/-- A space behind an ID does not count at the end of an address. -/
theorem sends_space (leads : Url.Leads c.baseUrl isSecure authority path) {a : InstanceAction}
    (last : a.suffix = "") {target : String} :
    (a.call (id ++ " ")).Sends c target ↔ (a.call id).Sends c target := by
  have same : tail a (id ++ " ") = tail a id := by
    have chars : (id ++ " " ++ a.suffix).toList = id.toList ++ [' '] := by
      simp [String.toList_append, last]
    rw [tail, chars, Url.ending, List.rdropWhile_concat_pos _ _ _ (by decide), tail, last,
      String.append_empty, Url.ending]
  rw [sends_iff_place leads, sends_iff_place leads, place, place, placePath, placePath, same]

/-- What IDs address under an address that leads to a host. -/
theorem addresses (leads : Url.Leads c.baseUrl isSecure authority path) : Addresses c path where
  one a id := by
    refine ⟨String.ofList (place path a id), fun target' => ?_⟩
    rw [sends_iff_place leads, ← String.toList_inj, String.toList_ofList]
  segments _ _ := separates_iff leads
  literal id other h h' plain plain' differ := by
    rw [separates_iff leads h h']
    intro same
    have chars := congrArg String.toList same
    rw [writtenId, writtenId, String.toList_ofList, String.toList_ofList] at chars
    exact differ (String.toList_injective (Url.written_injective plain plain' chars))
  plain _ := isPlain_iff leads
  shared id := by
    refine ⟨id ++ " ", ?_, fun target => ⟨?_, ?_⟩⟩
    · intro same
      have lengths := congrArg String.length same
      simp at lengths
    · exact sends_space (a := .look) leads rfl
    · exact sends_space (a := .delete) leads rfl

end Facts

/-- Two IDs that provider IDs may name. What stands behind a number sign is not sent, and the same
instance is deleted with both. -/
theorem addresses_of_sample :
    ProviderId.parse? "datacrunch://inst-1" = some "inst-1" ∧
      ProviderId.parse? "datacrunch://inst-1#x" = some "inst-1#x" ∧
      Url.Leads sample.baseUrl false "cloud" ["v1"] ∧ Addresses sample ["v1"] ∧
      Separates sample ["v1"] "inst-1" "inst-2" ∧
      (∃ target, (Call.deleteInstance "inst-1").Sends sample target ∧
        (Call.deleteInstance "inst-1#x").Sends sample target) ∧
      ¬ Separates sample ["v1"] "inst-1" "inst-1#x" := by
  have within : ∀ c ∈ sample.baseUrl.toList, (!Url.endsPath c) = true :=
    List.all_eq_true.mp (by decide)
  have leads : Url.Leads sample.baseUrl false "cloud" ["v1"] :=
    ⟨by simpa only [Bool.not_eq_true'] using within, none, by decide +kernel⟩
  have all := addresses leads
  have plain : IsPlain "inst-1" := by decide
  have plain' : IsPlain "inst-2" := by decide
  let url : Url :=
    { isSecure := false, authority := "cloud", path := ["v1", "instances", "inst-1"]
      query := none }
  have deleted : (InstanceAction.delete.call "inst-1").Sends sample url.target :=
    (InstanceAction.sends_iff _ _).mpr ⟨url, by decide +kernel, rfl⟩
  have deleted' : (InstanceAction.delete.call "inst-1#x").Sends sample url.target :=
    (InstanceAction.sends_iff _ _).mpr ⟨url, by decide +kernel, rfl⟩
  exact ⟨by decide, by decide, leads, all, (all.plain _).mp plain _ plain' (by decide),
    ⟨_, deleted, deleted'⟩,
    fun separates => separates.apart .delete .delete _ _ deleted deleted' rfl⟩

end MachineProvider.Client
