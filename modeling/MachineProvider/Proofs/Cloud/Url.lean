import MachineProvider.Proofs.Cloud.Percent
import Mathlib.Data.List.DropRight

/-!
# Reading addresses that are put together

An address with a slash in it is read in two steps: what stands in front of the slash gives a host
and a list of segments, from which the path goes on behind it (`Url.parse?_below`). Segments are
settled when nothing in them is special any more, and the path of every address consists of settled
ones (`Url.isSettled_of_parse?`).
-/

namespace MachineProvider.Url

section Lists

variable {α : Type} {p : α → Bool} {c : α}

theorem dropWhile_append_cons (h : p c = false) (front back : List α) :
    (front ++ c :: back).dropWhile p = front.dropWhile p ++ c :: back := by
  induction front with
  | nil => simp [h]
  | cons d front ih => cases held : p d <;> simp [held, ih]

theorem takeWhile_append_cons (h : p c = false) (front back : List α) :
    (front ++ c :: back).takeWhile p = front.takeWhile p := by
  induction front with
  | nil => simp [h]
  | cons d front ih => cases held : p d <;> simp [held, ih]

theorem rdropWhile_append_cons (h : p c = false) (front back : List α) :
    (front ++ c :: back).rdropWhile p = front ++ c :: back.rdropWhile p := by
  simp [List.rdropWhile, dropWhile_append_cons h]

end Lists

section Parts

/-- Whether a character does not count at the ends of an address. -/
def isEdge (c : Char) : Bool :=
  c.toNat ≤ 0x20

/-- Whether a character counts within an address. -/
def isKept (c : Char) : Bool :=
  !(c = '\t' || c = '\n' || c = '\r')

/-- What counts of the characters with which an address begins. -/
def beginning (chars : List Char) : List Char :=
  (chars.dropWhile isEdge).filter isKept

/-- What counts of the characters with which an address ends. -/
def ending (chars : List Char) : List Char :=
  (chars.rdropWhile isEdge).filter isKept

/-- What counts of an address with a slash counts in front of the slash or behind it. -/
theorem significant_slash (base more : String) :
    significant (base ++ "/" ++ more) = beginning base.toList ++ '/' :: ending more.toList := by
  have chars : (base ++ "/" ++ more).toList = base.toList ++ '/' :: more.toList := by
    simp [String.toList_append]
  have parts : significant (base ++ "/" ++ more) =
      (((base ++ "/" ++ more).toList.dropWhile isEdge).rdropWhile isEdge).filter isKept := rfl
  rw [parts, chars, dropWhile_append_cons (by decide), rdropWhile_append_cons (by decide),
    List.filter_append, List.filter_cons_of_pos (by decide), beginning, ending]

theorem afterScheme?_slash {scheme : List Char} (plain : '/' ∉ scheme) (front back : List Char) :
    afterScheme? scheme (front ++ '/' :: back) =
      (afterScheme? scheme front).map (· ++ '/' :: back) := by
  unfold afterScheme?
  dsimp only
  by_cases long : scheme.length + 1 ≤ front.length
  · rw [List.take_append_of_le_length long, List.drop_append_of_le_length long]
    split <;> rfl
  · have other : (front.take (scheme.length + 1)).map Char.toLower ≠ scheme ++ [':'] := by
      intro same
      have lengths := congrArg List.length same
      simp at lengths
      omega
    have slashed : ((front ++ '/' :: back).take (scheme.length + 1)).map Char.toLower ≠
        scheme ++ [':'] := by
      intro same
      have member : '/' ∈ ((front ++ '/' :: back).take (scheme.length + 1)).map Char.toLower := by
        obtain ⟨k, more⟩ := Nat.exists_eq_add_of_lt (Nat.lt_of_not_le long)
        refine List.mem_map.mpr ⟨'/', ?_, rfl⟩
        rw [List.take_append, more, Nat.add_assoc, Nat.add_sub_cancel_left, List.take_succ_cons]
        exact List.mem_append_right _ List.mem_cons_self
      rw [same] at member
      simp [plain] at member
    rw [if_neg slashed, if_neg other]
    rfl

/-- Whether an address is secure, and what follows its scheme. -/
def scheme? (chars : List Char) : Option (Bool × List Char) :=
  match afterScheme? "https".toList chars with
  | some rest => some (true, rest)
  | none => (afterScheme? "http".toList chars).map (false, ·)

theorem scheme?_slash (front back : List Char) :
    scheme? (front ++ '/' :: back) =
      (scheme? front).map fun (isSecure, rest) => (isSecure, rest ++ '/' :: back) := by
  unfold scheme?
  rw [afterScheme?_slash (by decide), afterScheme?_slash (by decide)]
  cases afterScheme? "https".toList front with
  | some rest => rfl
  | none => cases afterScheme? "http".toList front <;> rfl

/-- Whether a character ends host and port. -/
def endsHost (c : Char) : Bool :=
  isSlash c || endsPath c

/-- Reads what follows a scheme. -/
def afterwards? (isSecure : Bool) (rest : List Char) : Option Url := do
  let rest := rest.dropWhile isSlash
  let authority ← authority? (rest.takeWhile (!endsHost ·))
  let (path, query) := readTarget (rest.dropWhile (!endsHost ·))
  return { isSecure, authority, path, query }

theorem parse?_eq (text : String) :
    parse? text = (scheme? (significant text)).bind fun (isSecure, rest) =>
      afterwards? isSecure rest := by
  unfold parse? scheme?
  dsimp only
  cases afterScheme? "https".toList (significant text) with
  | some rest => rfl
  | none => cases afterScheme? "http".toList (significant text) <;> rfl

end Parts

section Paths

variable {path : List String} {segment chars rest : List Char}

/-- The segments of a path in front of a slash. -/
def readDirectory (path : List String) (segment : List Char) : List Char → List String
  | [] => appendSegment path segment false
  | c :: rest =>
    if isSlash c then readDirectory (appendSegment path segment false) [] rest
    else readDirectory path (segment ++ [c]) rest

/-- A path with a slash in it is read in two steps. -/
theorem readPath_slash (path : List String) (segment front back : List Char) :
    readPath path segment (front ++ '/' :: back) =
      readPath (readDirectory path segment front) [] back := by
  induction front generalizing path segment with
  | nil => rfl
  | cons c front ih =>
      rw [List.cons_append, readPath, readDirectory, ih, ih]
      split <;> rfl

/-- The segments in front of a slash, of what follows a host. -/
def directory : List Char → List String
  | [] => []
  | _ :: rest => readDirectory [] [] rest

/-- The segments of a path. -/
def segments : List Char → List String
  | [] => [""]
  | _ :: rest => readPath [] [] rest

theorem segments_slash (front back : List Char) :
    segments (front ++ '/' :: back) = readPath (directory front) [] back := by
  cases front with
  | nil => rfl
  | cons c front => exact readPath_slash [] [] front back

/-- The query in what follows a path. -/
def query? : List Char → Option String
  | '?' :: rest =>
    some (String.ofList ((rest.takeWhile (· ≠ '#')).flatMap (percentEncode escapedInQuery)))
  | _ => none

theorem query?_of_ne {chars : List Char} (other : ∀ rest, chars ≠ '?' :: rest) :
    query? chars = none := by
  unfold query?
  split
  next rest => exact absurd rfl (other rest)
  next => rfl

theorem readTarget_eq (chars : List Char) :
    readTarget chars =
      (segments (chars.takeWhile (!endsPath ·)), query? (chars.dropWhile (!endsPath ·))) := by
  have path : (match chars.takeWhile (!endsPath ·) with
      | [] => [""]
      | _ :: rest => readPath [] [] rest) = segments (chars.takeWhile (!endsPath ·)) := by
    cases chars.takeWhile (!endsPath ·) <;> rfl
  unfold readTarget
  dsimp only
  rw [← path]
  generalize chars.dropWhile (!endsPath ·) = after
  split
  next => rfl
  next other => exact congrArg (Prod.mk _) (query?_of_ne other).symm

theorem readTarget_slash {front : List Char} (plain : ∀ c ∈ front, endsPath c = false)
    (back : List Char) :
    readTarget (front ++ '/' :: back) =
      (readPath (directory front) [] (back.takeWhile (!endsPath ·)),
        query? (back.dropWhile (!endsPath ·))) := by
  have kept : ∀ c ∈ front, (!endsPath c) = true := fun c member => by rw [plain c member]; rfl
  have slash : (!endsPath '/') = true := rfl
  rw [readTarget_eq, List.takeWhile_append_of_pos kept, List.dropWhile_append_of_pos kept,
    List.takeWhile_cons, List.dropWhile_cons, if_pos slash, if_pos slash, segments_slash]

end Paths

section Below

variable {isSecure : Bool} {rest : List Char}

theorem suffix_of_afterScheme? {scheme chars : List Char}
    (h : afterScheme? scheme chars = some rest) : rest <:+ chars := by
  unfold afterScheme? at h
  dsimp only at h
  split at h
  · cases h
    exact List.drop_suffix _ _
  · cases h

theorem suffix_of_scheme? {chars : List Char} (h : scheme? chars = some (isSecure, rest)) :
    rest <:+ chars := by
  unfold scheme? at h
  cases found : afterScheme? "https".toList chars with
  | some rest' =>
      rw [found] at h
      cases h
      exact suffix_of_afterScheme? found
  | none =>
      rw [found] at h
      obtain ⟨rest', found', same⟩ := Option.map_eq_some_iff.mp h
      cases same
      exact suffix_of_afterScheme? found'

/-- Without a host there is no address. -/
theorem afterwards?_of_slashes (slashes : rest.dropWhile isSlash = []) :
    afterwards? isSecure (rest ++ ['/']) = none := by
  have only : (rest ++ ['/']).dropWhile isSlash = [] := by
    rw [List.dropWhile_append, slashes]
    rfl
  unfold afterwards?
  dsimp only
  rw [only]
  rfl

theorem afterwards?_slash (host : rest.dropWhile isSlash ≠ [])
    (plain : ∀ c ∈ rest, endsPath c = false) (back : List Char) :
    afterwards? isSecure (rest ++ '/' :: back) =
      (authority? ((rest.dropWhile isSlash).takeWhile (!endsHost ·))).map fun authority =>
        { isSecure, authority
          path := readPath (directory ((rest.dropWhile isSlash).dropWhile (!endsHost ·))) []
            (back.takeWhile (!endsPath ·))
          query := query? (back.dropWhile (!endsPath ·)) } := by
  have nonempty : (rest.dropWhile isSlash).isEmpty = false := List.isEmpty_eq_false_iff.mpr host
  have front : (rest ++ '/' :: back).dropWhile isSlash = rest.dropWhile isSlash ++ '/' :: back := by
    rw [List.dropWhile_append, nonempty]
    rfl
  have kept : ∀ c ∈ (rest.dropWhile isSlash).dropWhile (!endsHost ·), endsPath c = false :=
    fun c member => plain c
      ((List.dropWhile_suffix _).mem ((List.dropWhile_suffix _).mem member))
  unfold afterwards?
  dsimp only
  rw [front, takeWhile_append_cons rfl, dropWhile_append_cons rfl, readTarget_slash kept]
  cases authority? ((rest.dropWhile isSlash).takeWhile (!endsHost ·)) <;> rfl

/-- Whether an address is read as a host and a list of segments when a slash is put behind it. -/
structure Leads (base : String) (isSecure : Bool) (authority : String) (path : List String) :
    Prop where
  plain : ∀ c ∈ base.toList, endsPath c = false
  parsed : ∃ query, parse? (base ++ "/") =
    some { isSecure, authority, path := path ++ [""], query }

variable {base authority : String} {path : List String}

theorem parse?_slash (base more : String) :
    parse? (base ++ "/" ++ more) =
      (scheme? (beginning base.toList)).bind fun (isSecure, rest) =>
        afterwards? isSecure (rest ++ '/' :: ending more.toList) := by
  rw [parse?_eq, significant_slash, scheme?_slash]
  cases scheme? (beginning base.toList) <;> rfl

theorem readPath_nil (path : List String) : readPath path [] [] = path ++ [""] := rfl

/-- What is put behind the slash is read as the rest of the path and as the query. -/
theorem parse?_below (h : Leads base isSecure authority path) (more : String) :
    parse? (base ++ "/" ++ more) = some
      { isSecure, authority
        path := readPath path [] ((ending more.toList).takeWhile (!endsPath ·))
        query := query? ((ending more.toList).dropWhile (!endsPath ·)) } := by
  obtain ⟨query, parsed⟩ := h.parsed
  rw [← String.append_empty (s := base ++ "/"), parse?_slash] at parsed
  rw [parse?_slash]
  rcases found : scheme? (beginning base.toList) with - | ⟨isSecure', rest⟩
  · rw [found] at parsed
    cases parsed
  · rw [found] at parsed
    change afterwards? isSecure' (rest ++ ['/']) = _ at parsed
    change afterwards? isSecure' (rest ++ '/' :: ending more.toList) = _
    have plain : ∀ c ∈ rest, endsPath c = false := by
      intro c member
      have counts : c ∈ beginning base.toList := (suffix_of_scheme? found).mem member
      exact h.plain c ((List.dropWhile_suffix _).mem (List.mem_filter.mp counts).1)
    by_cases host : rest.dropWhile isSlash = []
    · rw [afterwards?_of_slashes host] at parsed
      cases parsed
    · rw [afterwards?_slash host plain] at parsed ⊢
      obtain ⟨authority', read, same⟩ := Option.map_eq_some_iff.mp parsed
      rw [List.takeWhile_nil, readPath_nil, Url.mk.injEq] at same
      obtain ⟨rfl, rfl, segments, -⟩ := same
      rw [read, List.append_cancel_right segments]
      rfl

end Below

section Literal

variable {c : Char}

theorem isEscaped_of_isLiteral (h : isLiteral c = true) : isEscaped c = false := by
  simpa using (Bool.and_eq_true_iff.mp h).1

theorem isSlash_of_isLiteral (h : isLiteral c = true) : isSlash c = false := by
  simpa using (Bool.and_eq_true_iff.mp h).2

/-- A character that stands for itself is none of those that are special in an address. -/
theorem ne_of_isLiteral {d : Char} (h : isLiteral c = true) (special : isLiteral d = false) :
    c ≠ d := by
  rintro rfl
  cases h.symm.trans special

theorem not_mem_of_isLiteral {chars : List Char} (literal : ∀ c ∈ chars, isLiteral c = true)
    {d : Char} (special : isLiteral d = false) : d ∉ chars :=
  fun member => ne_of_isLiteral (literal d member) special rfl

theorem endsPath_of_isLiteral (h : isLiteral c = true) : endsPath c = false := by
  have query : c ≠ '?' := ne_of_isLiteral h (by decide)
  have fragment : c ≠ '#' := ne_of_isLiteral h (by decide)
  simp [endsPath, query, fragment]

theorem isKept_of_isLiteral (h : isLiteral c = true) : isKept c = true := by
  have tab : c ≠ '\t' := ne_of_isLiteral h (by decide)
  have feed : c ≠ '\n' := ne_of_isLiteral h (by decide)
  have turn : c ≠ '\r' := ne_of_isLiteral h (by decide)
  simp [isKept, tab, feed, turn]

theorem isEdge_of_isLiteral (h : isLiteral c = true) : isEdge c = false := by
  have escaped := isEscaped_of_isLiteral h
  rw [isEscaped, Bool.or_eq_false_iff, Bool.or_eq_false_iff, decide_eq_false_iff_not] at escaped
  have space : c.toNat ≠ 0x20 := fun same =>
    ne_of_isLiteral h (d := ' ') (by decide) (Char.ext (UInt32.toNat_inj.mp same))
  rw [isEdge, decide_eq_false_iff_not]
  omega

end Literal

/-- Whether a segment stands for the path itself or for the path without its last segment. -/
def IsDots (segment : List Char) : Prop :=
  plainDots segment = ['.'] ∨ plainDots segment = ['.', '.']

/-- Whether nothing in a segment is special. -/
structure IsSettled (segment : String) : Prop where
  literal : ∀ c ∈ segment.toList, isLiteral c = true
  noDots : ¬ IsDots segment.toList

instance (segment : List Char) : Decidable (IsDots segment) :=
  inferInstanceAs (Decidable (_ ∨ _))

instance (segment : String) : Decidable (IsSettled segment) :=
  decidable_of_iff (segment.toList.all isLiteral = true ∧ ¬ IsDots segment.toList)
    ⟨fun h => ⟨List.all_eq_true.mp h.1, h.2⟩, fun h => ⟨List.all_eq_true.mpr h.literal, h.noDots⟩⟩

section Settled

theorem IsSettled.unslashed {segment : String} (h : IsSettled segment) :
    ∀ c ∈ segment.toList, isSlash c = false :=
  fun c member => isSlash_of_isLiteral (h.literal c member)

theorem IsSettled.written_eq {segment : String} (h : IsSettled segment) :
    written segment.toList = segment.toList :=
  written_eq_self fun c member => isEscaped_of_isLiteral (h.literal c member)

variable {path : List String} {segment chars : List Char}

theorem appendSegment_of_not_isDots (h : ¬ IsDots segment) (path : List String) (isLast : Bool) :
    appendSegment path segment isLast = path ++ [String.ofList (written segment)] := by
  rw [IsDots, not_or] at h
  unfold appendSegment
  dsimp only
  rw [if_neg h.2, if_neg h.1]
  rfl

/-- Writing a segment that is not dots makes no dots of it. -/
theorem isSettled_written (unslashed : ∀ c ∈ segment, isSlash c = false) (h : ¬ IsDots segment) :
    IsSettled (String.ofList (written segment)) := by
  constructor
  · rw [String.toList_ofList]
    exact fun c => isLiteral_of_mem_written unslashed
  · rw [String.toList_ofList]
    intro dots
    have same : written segment = segment := by
      apply written_eq_of_dots
      rcases dots with dots | dots <;> simp [dots]
    exact h (same ▸ dots)

theorem isSettled_empty : IsSettled "" :=
  ⟨nofun, by simp [IsDots, plainDots]⟩

theorem isSettled_appendSegment (settled : ∀ s ∈ path, IsSettled s)
    (unslashed : ∀ c ∈ segment, isSlash c = false) (isLast : Bool) :
    ∀ s ∈ appendSegment path segment isLast, IsSettled s := by
  have extended {path : List String} {s : String} (settled : ∀ s ∈ path, IsSettled s)
      (new : IsSettled s) : ∀ t ∈ path ++ [s], IsSettled t := by
    rintro t member
    rcases List.mem_append.mp member with before | last
    · exact settled t before
    · rw [List.mem_singleton.mp last]
      exact new
  have shorter : ∀ s ∈ path.dropLast, IsSettled s :=
    fun s member => settled s (List.dropLast_subset _ member)
  by_cases dots : IsDots segment
  · unfold appendSegment
    dsimp only
    split
    · split
      · exact extended shorter isSettled_empty
      · exact shorter
    · split
      · split
        · exact extended settled isSettled_empty
        · exact settled
      next two one => exact absurd dots (not_or.mpr ⟨one, two⟩)
  · rw [appendSegment_of_not_isDots dots]
    exact extended settled (isSettled_written unslashed dots)

theorem isSettled_readPath (settled : ∀ s ∈ path, IsSettled s)
    (unslashed : ∀ c ∈ segment, isSlash c = false) :
    ∀ s ∈ readPath path segment chars, IsSettled s := by
  induction chars generalizing path segment with
  | nil => exact isSettled_appendSegment settled unslashed true
  | cons c rest ih =>
      rw [readPath]
      split
      next => exact ih (isSettled_appendSegment settled unslashed false) nofun
      next other =>
        refine ih settled fun d member => ?_
        rcases List.mem_append.mp member with before | last
        · exact unslashed d before
        · rw [List.mem_singleton.mp last]
          exact Bool.eq_false_iff.mpr other

theorem isSettled_segments (chars : List Char) : ∀ s ∈ segments chars, IsSettled s := by
  cases chars with
  | nil =>
      intro s member
      rw [List.mem_singleton.mp member]
      exact isSettled_empty
  | cons c rest => exact isSettled_readPath nofun nofun

/-- The path of an address has settled segments only. -/
theorem isSettled_of_parse? {text : String} {u : Url} (h : parse? text = some u) :
    ∀ s ∈ u.path, IsSettled s := by
  rw [parse?_eq] at h
  obtain ⟨⟨isSecure, rest⟩, -, read⟩ := Option.bind_eq_some_iff.mp h
  obtain ⟨authority, -, same⟩ := Option.bind_eq_some_iff.mp read
  rw [readTarget_eq] at same
  obtain rfl := Option.some.inj same
  exact isSettled_segments _

theorem readPath_unslashed (unslashed : ∀ c ∈ chars, isSlash c = false) :
    readPath path segment chars = appendSegment path (segment ++ chars) true := by
  induction chars generalizing segment with
  | nil => rw [readPath, List.append_nil]
  | cons c rest ih =>
      rw [List.forall_mem_cons] at unslashed
      rw [readPath, if_neg (Bool.eq_false_iff.mp unslashed.1), ih unslashed.2, List.append_assoc]
      rfl

theorem readDirectory_unslashed (unslashed : ∀ c ∈ chars, isSlash c = false) :
    readDirectory path segment chars = appendSegment path (segment ++ chars) false := by
  induction chars generalizing segment with
  | nil => rw [readDirectory, List.append_nil]
  | cons c rest ih =>
      rw [List.forall_mem_cons] at unslashed
      rw [readDirectory, if_neg (Bool.eq_false_iff.mp unslashed.1), ih unslashed.2,
        List.append_assoc]
      rfl

end Settled

section Targets

/-- The characters of a path. -/
def joined (path : List String) : List Char :=
  path.flatMap fun segment => '/' :: segment.toList

theorem toList_target (u : Url) :
    u.target.toList = joined u.path ++ (u.query.elim [] fun query => '?' :: query.toList) := by
  have path : (String.join (u.path.map ("/" ++ ·))).toList = joined u.path := by
    rw [String.toList_join, joined, List.flatMap_map]
    exact List.flatMap_congr fun s _ => by simp [String.toList_append]
  unfold target
  dsimp only
  cases u.query with
  | none => simp [path]
  | some query => simp [path, String.toList_append]

theorem mem_joined {path : List String} {c : Char} (h : c ∈ joined path) :
    c = '/' ∨ ∃ s ∈ path, c ∈ s.toList := by
  obtain ⟨s, member, within⟩ := List.mem_flatMap.mp h
  exact (List.mem_cons.mp within).imp_right fun inner => ⟨s, member, inner⟩

/-- Segments without slashes can be read off a path. -/
theorem joined_injective {path other : List String} (unslashed : ∀ s ∈ path, '/' ∉ s.toList)
    (unslashed' : ∀ s ∈ other, '/' ∉ s.toList) (same : joined path = joined other) :
    path = other := by
  have slash {segment : String} (unslashed : '/' ∉ segment.toList) (rest : List String) :
      (segment.toList ++ joined rest).takeWhile (· ≠ '/') = segment.toList ∧
        (segment.toList ++ joined rest).dropWhile (· ≠ '/') = joined rest := by
    have kept : ∀ c ∈ segment.toList, decide (c ≠ '/') = true := fun c member =>
      decide_eq_true fun slash => unslashed (slash ▸ member)
    rw [List.takeWhile_append_of_pos kept, List.dropWhile_append_of_pos kept]
    cases rest <;> simp [joined]
  induction path generalizing other with
  | nil =>
      cases other with
      | nil => rfl
      | cons => cases same
  | cons segment rest ih =>
      cases other with
      | nil => cases same
      | cons segment' rest' =>
          rw [List.forall_mem_cons] at unslashed unslashed'
          have tails : segment.toList ++ joined rest = segment'.toList ++ joined rest' :=
            (List.cons.inj same).2
          have segments := congrArg (List.takeWhile (· ≠ '/')) tails
          rw [(slash unslashed.1 rest).1, (slash unslashed'.1 rest').1] at segments
          have rests := congrArg (List.dropWhile (· ≠ '/')) tails
          rw [(slash unslashed.1 rest).2, (slash unslashed'.1 rest').2] at rests
          rw [String.toList_injective segments, ih unslashed.2 unslashed'.2 rests]

end Targets

end MachineProvider.Url
