import MachineProvider.Manager.Arguments

/-!
# What the arguments say

A command line that only sets arguments is a row of phrases, each of which gives one argument its
text (`phrases_of_readWords`), and there is one way only to take it apart (`Spells.unique`). An
argument that no phrase mentions takes its text from the environment, and one without a text keeps
its standard value. Every argument that is read has the value that its text stands for
(`says_of_read`).
-/

namespace MachineProvider.Manager

/-- How a command line gives an argument its text. -/
inductive Phrase where
  /-- The name alone, of an argument that is true when it is named. -/
  | named (argument : Argument) (alone : argument.isSwitch = true)
  /-- The name with a text attached. -/
  | attached (argument : Argument) (valued : argument.isSwitch = false) (text : String)
  /-- The name, and after it a text that does not start like an argument. -/
  | separate (argument : Argument) (valued : argument.isSwitch = false) (text : String)
    (plain : text.toList.head? = some '-' → text = "-")

namespace Phrase

/-- The argument that is given a text. -/
def argument : Phrase → Argument
  | named x _ | attached x _ _ | separate x _ _ _ => x

/-- The text that is given. -/
def text : Phrase → String
  | named _ _ => "true"
  | attached _ _ text | separate _ _ text _ => text

/-- The words of a phrase. -/
def words : Phrase → List String
  | named x _ => ["--" ++ x.name]
  | attached x _ text => ["--" ++ x.name ++ "=" ++ text]
  | separate x _ text _ => ["--" ++ x.name, text]

/-- What a phrase tells of an argument. -/
def told (p : Phrase) (x : Argument) : Option String :=
  if p.argument = x then some p.text else none

end Phrase

/-- Whether words are those of phrases, with the end of all arguments after them or not. -/
def Spells (phrases : List Phrase) (words : List String) : Prop :=
  words = phrases.flatMap Phrase.words ∨ words = phrases.flatMap Phrase.words ++ ["--"]

theorem Spells.cons {phrases : List Phrase} {words : List String} (p : Phrase)
    (h : Spells phrases words) : Spells (p :: phrases) (p.words ++ words) := by
  rcases h with rfl | rfl
  · exact .inl rfl
  · exact .inr (by simp)

/-- The text that an argument is given: by a phrase, or else by its environment variable. -/
def textOf (env : Environment) (phrases : List Phrase) (x : Argument) : Option String :=
  phrases.findSome? (·.told x) <|> env.get? x.environmentVariable

/-- One step after another succeeds when both do. -/
theorem bind_eq_ok {ε α β : Type} {x : Except ε α} {f : α → Except ε β} {b : β} :
    (x >>= f) = .ok b ↔ ∃ a, x = .ok a ∧ f a = .ok b := by
  cases x with
  | error fault => simp [bind, Except.bind]
  | ok a => simp [bind, Except.bind]

/-! ## Words -/

theorem Argument.name_of_ofName? {name : String} {x : Argument} (h : ofName? name = some x) :
    x.name = name := by
  simpa using List.find?_some h

namespace Word

/-- A word that names an argument is two dashes, the name and, after a sign, what is attached. -/
theorem eq_of_long {word name : String} {attached : Option String}
    (h : ofString word = .long name attached) :
    word = "--" ++ name ++ attached.elim "" ("=" ++ ·) := by
  unfold ofString at h
  split at h
  · cases h
  next rest _ chars =>
    have parts := List.takeWhile_append_dropWhile (p := (· != '=')) (l := rest)
    rw [← String.toList_inj, chars]
    split at h
    next sign text found =>
      have isSign : sign = '=' := by
        simpa [found] using List.head?_dropWhile_not (· != '=') rest
      rw [found, isSign] at parts
      cases h
      simpa using parts.symm
    next found =>
      rw [found] at parts
      cases h
      simpa using parts.symm
  · cases h
  · cases h

theorem eq_of_finish {word : String} (h : ofString word = .finish) : word = "--" := by
  unfold ofString at h
  split at h
  next chars => rwa [← String.toList_inj]
  · split at h <;> cases h
  · cases h
  · cases h

/-- A word that is no argument is a single dash or starts with something else. -/
theorem head_of_plain {word : String} (h : ofString word = .plain) :
    word.toList.head? = some '-' → word = "-" := by
  intro dash
  obtain ⟨rest, chars⟩ := List.head?_eq_some_iff.mp dash
  cases rest with
  | nil => rw [← String.toList_inj, chars]; rfl
  | cons letter rest =>
    unfold ofString at h
    split at h
    · cases h
    · split at h <;> cases h
    · cases h
    next other => exact (other letter rest chars).elim

end Word

/-! ## One row of phrases -/

theorem Argument.name_injective {x y : Argument} (h : x.name = y.name) : x = y := by
  have found := ofName?_name x
  rw [h, ofName?_name y] at found
  exact (Option.some.inj found).symm

namespace Phrase

theorem ofString_name (x : Argument) : Word.ofString ("--" ++ x.name) = .long x.name none := by
  cases x <;> rfl

/-- The first sign in a word stands after the name. -/
theorem ofString_attached (x : Argument) (text : String) :
    Word.ofString ("--" ++ x.name ++ "=" ++ text) = .long x.name (some text) := by
  have noSign : x.name.toList.all (· != '=') = true := by
    cases x <;> rfl
  have takes : (x.name.toList ++ '=' :: text.toList).takeWhile (· != '=') = x.name.toList := by
    rw [List.takeWhile_append_of_pos (List.all_eq_true.mp noSign)]
    simp
  have drops : (x.name.toList ++ '=' :: text.toList).dropWhile (· != '=') = '=' :: text.toList := by
    rw [List.dropWhile_append_of_pos (List.all_eq_true.mp noSign)]
    simp
  have chars : ("--" ++ x.name ++ "=" ++ text).toList =
      '-' :: '-' :: (x.name.toList ++ '=' :: text.toList) := by
    simp
  unfold Word.ofString
  rw [chars]
  cases noEnd : x.name.toList ++ '=' :: text.toList with
  | nil => simp at noEnd
  | cons c rest =>
    rw [noEnd] at takes drops
    simp only [takes, drops, String.ofList_toList]

/-- The first words of a row tell its first phrase. -/
theorem eq_of_words {p q : Phrase} {rest rest' : List String}
    (h : p.words ++ rest = q.words ++ rest') : p = q ∧ rest = rest' := by
  have heads := congrArg (fun words => words.head?.map Word.ofString) h
  cases p <;> cases q <;>
    simp only [words, List.cons_append, List.nil_append, List.head?_cons, Option.map_some,
      ofString_name, ofString_attached, Option.some.injEq, Word.long.injEq, reduceCtorEq,
      and_false, and_true, List.cons.injEq] at heads h
  case named.named =>
    obtain rfl := Argument.name_injective heads
    exact ⟨rfl, h.2⟩
  case attached.attached =>
    obtain rfl := Argument.name_injective heads.1
    obtain rfl := heads.2
    exact ⟨rfl, h.2⟩
  case separate.separate =>
    obtain rfl := Argument.name_injective heads
    obtain ⟨-, rfl, same⟩ := h
    exact ⟨rfl, same⟩
  -- an argument takes a value or stands alone
  case named.separate x alone y valued _ _ =>
    rw [Argument.name_injective heads, valued] at alone
    cases alone
  case separate.named x valued _ _ y alone =>
    rw [← Argument.name_injective heads, valued] at alone
    cases alone

theorem words_ne_finish (p : Phrase) (rest : List String) : p.words ++ rest ≠ ["--"] := by
  intro h
  have heads := congrArg (fun words => words.head?.map Word.ofString) h
  have finish : Word.ofString "--" = .finish := rfl
  cases p <;> simp [words, ofString_name, ofString_attached, finish] at heads

end Phrase

/-- A row that is not empty starts with the words of its first phrase. -/
theorem Spells.of_cons {p : Phrase} {phrases : List Phrase} {words : List String}
    (h : Spells (p :: phrases) words) : ∃ rest, words = p.words ++ rest ∧ Spells phrases rest := by
  rcases h with rfl | rfl
  · exact ⟨_, rfl, .inl rfl⟩
  · exact ⟨_, by simp, .inr rfl⟩

theorem Spells.not_cons_of_nil {words : List String} (h : Spells [] words) (p : Phrase)
    (phrases : List Phrase) : ¬ Spells (p :: phrases) words := by
  intro spelled
  obtain ⟨rest, same, -⟩ := spelled.of_cons
  rcases h with rfl | rfl
  · cases p <;> cases same
  · exact p.words_ne_finish rest same.symm

/-- Words are those of at most one row of phrases. -/
theorem Spells.unique {phrases phrases' : List Phrase} {words : List String}
    (h : Spells phrases words) (h' : Spells phrases' words) : phrases = phrases' := by
  induction phrases generalizing phrases' words with
  | nil =>
    cases phrases' with
    | nil => rfl
    | cons q _ => exact (h.not_cons_of_nil q _ h').elim
  | cons p phrases ih =>
    cases phrases' with
    | nil => exact (h'.not_cons_of_nil p _ h).elim
    | cons q phrases' =>
      obtain ⟨rest, rfl, tail⟩ := h.of_cons
      obtain ⟨rest', same, tail'⟩ := h'.of_cons
      obtain ⟨rfl, rfl⟩ := Phrase.eq_of_words same
      rw [ih tail tail']

/-! ## Values -/

/-- What a text stands for, which is a standard value when there is no text. -/
def valueOf? {α : Type} (read : String → Option α) (standard : α) : Option String → Option α
  | none => some standard
  | some text => read text

/-- What a text stands for when there is one. -/
def optional? {α : Type} (read : String → Option α) : Option String → Option (Option α)
  | none => some none
  | some text => (read text).map some

/-- A value that need not be there takes the place of a standard value when it is. -/
theorem valueOf?_of_optional? {α : Type} {read : String → Option α} {text : Option String}
    {value : Option α} (h : optional? read text = some value) (standard : α) :
    valueOf? read standard text = some (value.getD standard) := by
  cases text with
  | none =>
    cases h
    rfl
  | some text =>
    obtain ⟨v, stands, rfl⟩ := Option.map_eq_some_iff.mp h
    exact stands

namespace Arguments

/-- Whether an argument has the value that its text stands for. -/
def Says (a : Arguments) (text : Option String) : Argument → Prop
  | .configPath => valueOf? some Config.defaultPath text = some a.configPath
  | .healthAddress =>
    valueOf? SocketAddress.parse? defaultHealthAddress text = some a.healthAddress
  | .watchFilter => a.watchFilter = text
  | .watchNamespace => a.watchNamespace = text
  | .clusterConcurrency => optional? uint16? text = some a.clusterConcurrency
  | .machineConcurrency => optional? uint16? text = some a.machineConcurrency
  | .syncPeriod => optional? uint64? text = some a.syncPeriodSeconds
  | .leaderElection => valueOf? bool? false text = some a.leaderElection
  | .leaseDuration => optional? uint64? text = some a.leaseDurationSeconds
  | .renewDeadline => optional? uint64? text = some a.renewDeadlineSeconds
  | .retryPeriod => optional? uint64? text = some a.retryPeriodSeconds
  | .jsonLog => valueOf? bool? false text = some a.jsonLog

/-- Without any text, all arguments have their standard values. -/
theorem says_standard (x : Argument) : ({} : Arguments).Says none x := by
  cases x <;> rfl

variable {a next : Arguments} {x : Argument} {text : String}

/-- An argument that is set has the value of the text. -/
theorem says_of_set? (h : a.set? x text = some next) : next.Says (some text) x := by
  cases x
  case configPath | watchFilter | watchNamespace =>
    cases h
    rfl
  all_goals
    obtain ⟨value, stands, rfl⟩ := Option.map_eq_some_iff.mp h
    simp [Says, valueOf?, optional?, stands]

/-- The other arguments keep their values. -/
theorem says_of_set?_of_ne {y : Argument} {earlier : Option String}
    (h : a.set? x text = some next) (other : y ≠ x) (said : a.Says earlier y) :
    next.Says earlier y := by
  cases x
  case configPath | watchFilter | watchNamespace =>
    cases h
    cases y <;> first | exact said | exact absurd rfl other
  all_goals
    obtain ⟨value, -, rfl⟩ := Option.map_eq_some_iff.mp h
    cases y <;> first | exact said | exact absurd rfl other

end Arguments

/-! ## What has been given -/

namespace Given

/-- Whether what has been given is what the texts stand for. -/
structure Reflects (g : Given) (texts : Argument → Option String) : Prop where
  valued : ∀ x, g.arguments.Says (texts x) x
  named : ∀ x, x ∈ g.names ↔ (texts x).isSome

/-- Nothing has been given at first. -/
theorem reflects_nothing : ({} : Given).Reflects fun _ => none where
  valued := Arguments.says_standard
  named := by simp

variable {g next given : Given} {texts : Argument → Option String}

/-- An argument is taken when it has no text yet, and then it has one. -/
theorem Reflects.take {x : Argument} {text : String} (h : g.Reflects texts)
    (taken : g.take x text = .ok next) :
    next.Reflects fun y => texts y <|> if x = y then some text else none := by
  unfold Given.take at taken
  split at taken
  · cases taken
  next fresh =>
    have untold : texts x = none := by
      simpa [h.named] using fresh
    split at taken
    next arguments set =>
      cases taken
      constructor
      · intro y
        by_cases same : x = y
        · subst same
          simpa [untold] using Arguments.says_of_set? set
        · simpa [same] using Arguments.says_of_set?_of_ne set (Ne.symm same) (h.valued y)
      · intro y
        by_cases same : x = y
        · simp [same]
        · simp [same, Ne.symm same, h.named]
    · cases taken

/-- What is taken one after the other is told by all together, the first to tell something of an
argument deciding. -/
theorem Reflects.foldlM {β : Type} {step : Given → β → Except UsageFault Given}
    {told : β → Argument → Option String}
    (keeps : ∀ {g next : Given} {texts : Argument → Option String} {b : β},
      g.Reflects texts → step g b = .ok next → next.Reflects fun x => texts x <|> told b x)
    {bs : List β} (h : g.Reflects texts) (folded : bs.foldlM step g = .ok given) :
    given.Reflects fun x => texts x <|> bs.findSome? (told · x) := by
  induction bs generalizing g texts with
  | nil =>
    cases folded
    simpa using h
  | cons b rest ih =>
    rw [List.foldlM_cons] at folded
    obtain ⟨next, first, folded⟩ := bind_eq_ok.mp folded
    have regroup : (fun x => texts x <|> (b :: rest).findSome? (told · x)) =
        fun x => (texts x <|> told b x) <|> rest.findSome? (told · x) := by
      funext x
      rw [List.findSome?_cons]
      cases texts x <;> cases told b x <;> rfl
    rw [regroup]
    exact ih (keeps h first) folded

end Given

/-! ## Reading -/

/-- Phrases give their texts one after the other. -/
def Given.hear (g : Given) (phrases : List Phrase) : Except UsageFault Given :=
  phrases.foldlM (fun g p => g.take p.argument p.text) g

/-- A phrase stands before those of the words after it. -/
theorem phrases_cons {g given : Given} {words rest : List String} (p : Phrase)
    (spelled : words = p.words ++ rest)
    (ih : ∀ next : Given, readWords next rest = .ok (.inl given) →
      ∃ phrases, Spells phrases rest ∧ next.hear phrases = .ok given)
    (h : (do readWords (← g.take p.argument p.text) rest) = .ok (.inl given)) :
    ∃ phrases, Spells phrases words ∧ g.hear phrases = .ok given := by
  subst spelled
  obtain ⟨next, taken, h⟩ := bind_eq_ok.mp h
  obtain ⟨phrases, spelled, heard⟩ := ih next h
  refine ⟨p :: phrases, spelled.cons p, ?_⟩
  rw [Given.hear, List.foldlM_cons]
  exact bind_eq_ok.mpr ⟨next, taken, heard⟩

/-- The words of a command line that only sets arguments are those of phrases. -/
theorem phrases_of_readWords {g given : Given} {words : List String}
    (h : readWords g words = .ok (.inl given)) :
    ∃ phrases, Spells phrases words ∧ g.hear phrases = .ok given := by
  fun_induction readWords g words with
  | case1 g =>
    cases h
    exact ⟨[], .inl rfl, rfl⟩
  | case2 g word finish =>
    cases h
    exact ⟨[], .inr (by rw [Word.eq_of_finish finish]; rfl), rfl⟩
  | case12 g word rest name x text found valued _ _ _ _ attached ih =>
    obtain rfl := Argument.name_of_ofName? found
    refine phrases_cons (.attached x (by simpa using valued) text) ?_ ih h
    simp [Phrase.words, Word.eq_of_long attached, String.append_assoc]
  | case13 g word rest name x found alone _ _ _ _ named ih =>
    obtain rfl := Argument.name_of_ofName? found
    refine phrases_cons (.named x alone) ?_ ih h
    simp [Phrase.words, Word.eq_of_long named]
  | case15 g word name x found valued text rest plain _ _ _ _ named ih =>
    obtain rfl := Argument.name_of_ofName? found
    have plainText := Word.head_of_plain plain
    refine phrases_cons (.separate x (by simpa using valued) text plainText) ?_ ih h
    simp [Phrase.words, Word.eq_of_long named]
  | _ => cases h

/-- Words by themselves ask for the version or for help only. -/
theorem readWords_ne_run {g : Given} {words : List String} {a : Arguments} :
    readWords g words ≠ .ok (.inr (.run a)) := by
  intro h
  fun_induction readWords g words with
  | case12 _ _ _ _ _ _ _ _ _ _ _ _ _ ih
  | case13 _ _ _ _ _ _ _ _ _ _ _ _ ih
  | case15 _ _ _ _ _ _ _ _ _ _ _ _ _ _ ih =>
    obtain ⟨next, -, h⟩ := bind_eq_ok.mp h
    exact ih next h
  | _ => cases h

/-- Of all arguments only the one in question has something to tell. -/
theorem findSome?_all (text : Argument → Option String) (x : Argument) :
    Argument.all.findSome? (fun y => if y = x then text y else none) = text x := by
  cases found : Argument.all.findSome? (fun y => if y = x then text y else none) with
  | none =>
    have silent := List.findSome?_eq_none_iff.mp found x (Argument.mem_all x)
    simpa using silent.symm
  | some value =>
    obtain ⟨y, -, tells⟩ := List.exists_of_findSome?_eq_some found
    obtain ⟨rfl, told⟩ : y = x ∧ text y = some value := by simpa using tells
    exact told.symm

/-- What phrases tell is given besides what has been given before. -/
theorem Given.Reflects.hear {g given : Given} {texts : Argument → Option String}
    {phrases : List Phrase} (h : g.Reflects texts) (heard : g.hear phrases = .ok given) :
    given.Reflects fun x => texts x <|> phrases.findSome? (·.told x) := by
  refine h.foldlM ?_ heard
  intro g next texts p h taken
  exact h.take taken

/-- A variable is heard about an argument that has not been given. -/
theorem Given.Reflects.environment {env : Environment} {g given : Given}
    {texts : Argument → Option String} (h : g.Reflects texts)
    (read : readEnvironment env g = .ok given) :
    given.Reflects fun x => texts x <|> env.get? x.environmentVariable := by
  let told (y x : Argument) := if y = x then env.get? y.environmentVariable else none
  have all : given.Reflects fun x => texts x <|> Argument.all.findSome? (told · x) := by
    refine h.foldlM ?_ read
    intro g next texts y h step
    split at step
    next given =>
      -- the command line wins over the environment
      cases step
      obtain ⟨text, has⟩ := Option.isSome_iff_exists.mp ((h.named y).mp (by simpa using given))
      have same : (fun x => texts x <|> told y x) = texts := by
        funext x
        by_cases eq : y = x
        · simp [← eq, has]
        · simp [told, eq]
      rwa [same]
    · split at step
      next value set => simpa only [told, set] using h.take step
      next unset =>
        cases step
        simpa [told, unset] using h
  simpa only [told, findSome?_all (fun y => env.get? y.environmentVariable)] using all

/-- The arguments that are read have the values that the phrases of the command line and the
environment give them. -/
theorem says_of_read {env : Environment} {words : List String} {a : Arguments}
    (reads : Request.read env words = .ok (.run a)) :
    ∃ phrases, Spells phrases words ∧ ∀ x, a.Says (textOf env phrases x) x := by
  obtain ⟨outcome, line, reads⟩ := bind_eq_ok.mp reads
  cases outcome with
  | inr request =>
    cases reads
    exact (readWords_ne_run line).elim
  | inl spoken =>
    obtain ⟨given, fromEnvironment, reads⟩ := bind_eq_ok.mp reads
    cases reads
    obtain ⟨phrases, spelled, heard⟩ := phrases_of_readWords line
    have reflects := (Given.reflects_nothing.hear heard).environment fromEnvironment
    exact ⟨phrases, spelled, reflects.valued⟩

end MachineProvider.Manager
