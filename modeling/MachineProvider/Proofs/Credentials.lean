import MachineProvider.Cloud.Connector
import MachineProvider.Credentials
import MachineProvider.Proofs.Surroundings
import Mathlib.Data.List.DropRight

/-!
# Which secrets give credentials

A key of a secret counts when its value is the UTF-8 form of a text that is not blank, and what
counts of it is the text without the blank characters at its ends (`Credentials.Takes`). Data is
usable when the keys that are required count and the other one is a text
(`Credentials.exists_ofSecret`). A client can then be set up, since everything that it asks of its
credentials was made sure of when they were read (`Credentials.AreIn.suffice`).
`Service.resolves_credentialsAt` puts this together for a secret that is read under a guard.
-/

namespace MachineProvider

namespace Text

/-- Whether a value is what is left of a text without the blank characters at its ends. -/
structure IsTrimmed (text value : String) : Prop where
  within : ∃ front back, text.toList = front ++ value.toList ++ back ∧
    front.all isBlank = true ∧ back.all isBlank = true
  head : ∀ c ∈ value.toList.head?, isBlank c = false
  last : ∀ c ∈ value.toList.getLast?, isBlank c = false

theorem trimChars_eq (chars : List Char) :
    trimChars chars = (chars.dropWhile isBlank).rdropWhile isBlank := rfl

theorem trimChars_eq_nil {chars : List Char} : trimChars chars = [] ↔ chars.all isBlank = true := by
  rw [trimChars_eq, List.rdropWhile_eq_nil_iff, List.all_eq_true]
  constructor
  · intro left
    have none : chars.dropWhile isBlank = [] := by
      by_contra some
      have sharp := List.head_dropWhile_not isBlank some
      rw [left _ (List.head_mem some)] at sharp
      cases sharp
    exact List.dropWhile_eq_nil_iff.mp none
  · intro blank
    rw [List.dropWhile_eq_nil_iff.mpr blank]
    exact nofun

theorem isTrimmed_trim (text : String) : IsTrimmed text (trim text) := by
  have value : (trim text).toList = trimChars text.toList := String.toList_ofList
  rw [trimChars_eq] at value
  have right := List.rdropWhile_append_rtakeWhile
    (p := isBlank) (l := text.toList.dropWhile isBlank)
  constructor
  · refine ⟨text.toList.takeWhile isBlank, (text.toList.dropWhile isBlank).rtakeWhile isBlank, ?_,
      List.all_takeWhile, ?_⟩
    · rw [value, List.append_assoc, right, List.takeWhile_append_dropWhile]
    · exact List.all_eq_true.mpr fun c => List.mem_rtakeWhile_imp
  · intro c member
    rw [value] at member
    have first : c ∈ (text.toList.dropWhile isBlank).head? := by
      rw [← right, List.head?_append, Option.mem_def.mp member]
      rfl
    have sharp := List.head?_dropWhile_not isBlank text.toList
    rw [Option.mem_def.mp first] at sharp
    exact sharp
  · intro c member
    rw [value] at member
    obtain ⟨some, rfl⟩ := List.mem_getLast?_eq_getLast member
    exact Bool.eq_false_iff.mpr (List.rdropWhile_last_not isBlank _ some)

/-- Nothing is left of a blank text, and of no other. -/
theorem isEmpty_trim (text : String) : (trim text).isEmpty = isBlankText text := by
  rw [Bool.eq_iff_iff, String.isEmpty_iff, ← String.toList_eq_nil_iff, isBlankText,
    ← trimChars_eq_nil, trim, String.toList_ofList]

theorem ofBytes?_eq_some {bytes : ByteArray} {text : String} :
    ofBytes? bytes = some text ↔ bytes = text.toUTF8 := by
  unfold ofBytes? String.fromUTF8?
  split
  next valid =>
    rw [Option.some.injEq]
    constructor
    · rintro rfl
      rfl
    · rintro rfl
      rfl
  next invalid =>
    refine iff_of_false nofun ?_
    rintro rfl
    exact invalid text.isValidUTF8

end Text

/-- Whether a failure says that credentials cannot be used and names the secret that they are in. -/
def Error.BlamesSecret (e : Error) (location : SecretLocation) : Prop :=
  ∃ front back, e = .credentials (front ++ location.display ++ back)

namespace Credentials

/-- Whether the value of a key is a text in UTF-8. -/
def Holds (data : SecretData) (key text : String) : Prop :=
  data.get? key = some text.toUTF8

/-- Whether the value of a key is a text that is not blank. -/
def Fills (data : SecretData) (key : String) : Prop :=
  ∃ text, Holds data key text ∧ Text.isBlankText text = false

/-- Whether a key has no value or a blank one. -/
def Lacks (data : SecretData) (key : String) : Prop :=
  data.get? key = none ∨ ∃ text, Holds data key text ∧ Text.isBlankText text = true

/-- Whether the data of a secret has what a client needs. -/
structure IsUsable (data : SecretData) : Prop where
  clientId : Fills data clientIdKey
  clientSecret : Fills data clientSecretKey
  /-- The address of the cloud may be missing or blank, but it must be text. -/
  baseUrl : data.get? baseUrlKey = none ∨ ∃ text, Holds data baseUrlKey text

/-- Whether a value is the one that a key has, without the blank characters around it. -/
def IsValue (data : SecretData) (key value : String) : Prop :=
  ∃ text, Holds data key text ∧ Text.isBlankText text = false ∧ Text.IsTrimmed text value

/-- Whether credentials are the ones in the data of a secret. -/
structure AreIn (c : Credentials) (data : SecretData) : Prop where
  clientId : IsValue data clientIdKey c.clientId
  clientSecret : IsValue data clientSecretKey c.clientSecret
  baseUrl : ∀ url, c.baseUrl = some url → IsValue data baseUrlKey url
  usualUrl : c.baseUrl = none ↔ Lacks data baseUrlKey

section Keys

variable {data : SecretData} {key value text : String} {location : SecretLocation} {e : Error}

/-- What is made of the value of a key. -/
inductive Takes (data : SecretData) (key : String) (location : SecretLocation) :
    Except Error (Option String) → Prop
  | missing (missing : data.get? key = none) : Takes data key location (.ok none)
  | blank {text : String} (holds : Holds data key text) (blank : Text.isBlankText text = true) :
    Takes data key location (.ok none)
  | text {text : String} (holds : Holds data key text) (filled : Text.isBlankText text = false) :
    Takes data key location (.ok (some (Text.trim text)))
  | notText {e : Error} (invalid : ∀ text, ¬ Holds data key text)
    (blames : e.BlamesSecret location) : Takes data key location (.error e)

theorem optionalKey_of_missing (missing : data.get? key = none) :
    optionalKey data key location = .ok none := by
  rw [optionalKey, missing]

theorem optionalKey_of_holds (holds : Holds data key text) :
    optionalKey data key location =
      .ok (if Text.isBlankText text then none else some (Text.trim text)) := by
  rw [optionalKey, holds]
  dsimp only
  rw [Text.ofBytes?_eq_some.mpr rfl]
  dsimp only
  rw [Text.isEmpty_trim]

theorem takes_optionalKey (data : SecretData) (key : String) (location : SecretLocation) :
    Takes data key location (optionalKey data key location) := by
  cases found : data.get? key with
  | none =>
    rw [optionalKey_of_missing found]
    exact .missing found
  | some bytes =>
    cases read : Text.ofBytes? bytes with
    | some text =>
      have holds : Holds data key text :=
        found.trans (congrArg some (Text.ofBytes?_eq_some.mp read))
      rw [optionalKey_of_holds holds]
      cases blank : Text.isBlankText text with
      | true => exact .blank holds blank
      | false => exact .text holds blank
    | none =>
      rw [optionalKey, found]
      dsimp only
      rw [read]
      refine .notText (fun text holds => ?_)
        ⟨"secret ", " key " ++ key ++ " is not valid UTF-8", by simp [String.append_assoc]⟩
      rw [Holds, found, Option.some.injEq] at holds
      rw [Text.ofBytes?_eq_some.mpr holds] at read
      cases read

theorem isValue_of_optionalKey (h : optionalKey data key location = .ok (some value)) :
    IsValue data key value := by
  have takes := takes_optionalKey data key location
  rw [h] at takes
  cases takes with
  | text holds filled => exact ⟨_, holds, filled, Text.isTrimmed_trim _⟩

theorem optionalKey_eq_none : optionalKey data key location = .ok none ↔ Lacks data key := by
  constructor
  · intro h
    have takes := takes_optionalKey data key location
    rw [h] at takes
    cases takes with
    | missing missing => exact .inl missing
    | blank holds blank => exact .inr ⟨_, holds, blank⟩
  · rintro (missing | ⟨text, holds, blank⟩)
    · exact optionalKey_of_missing missing
    · rw [optionalKey_of_holds holds, blank]
      rfl

theorem exists_optionalKey :
    (∃ value, optionalKey data key location = .ok value) ↔
      data.get? key = none ∨ ∃ text, Holds data key text := by
  constructor
  · rintro ⟨value, h⟩
    have takes := takes_optionalKey data key location
    rw [h] at takes
    cases takes with
    | missing missing => exact .inl missing
    | blank holds _ => exact .inr ⟨_, holds⟩
    | text holds _ => exact .inr ⟨_, holds⟩
  · rintro (missing | ⟨text, holds⟩)
    · exact ⟨_, optionalKey_of_missing missing⟩
    · exact ⟨_, optionalKey_of_holds holds⟩

theorem blames_of_optionalKey (h : optionalKey data key location = .error e) :
    e.BlamesSecret location := by
  have takes := takes_optionalKey data key location
  rw [h] at takes
  cases takes with
  | notText _ blames => exact blames

theorem requiredKey_eq_ok :
    requiredKey data key location = .ok value ↔
      optionalKey data key location = .ok (some value) := by
  unfold requiredKey
  rcases optionalKey data key location with e | _ | value' <;>
    simp [bind, Except.bind, pure, Except.pure, throw, throwThe, MonadExceptOf.throw]

theorem exists_requiredKey :
    (∃ value, requiredKey data key location = .ok value) ↔ Fills data key := by
  simp only [requiredKey_eq_ok]
  constructor
  · rintro ⟨value, h⟩
    obtain ⟨text, holds, filled, -⟩ := isValue_of_optionalKey h
    exact ⟨text, holds, filled⟩
  · rintro ⟨text, holds, filled⟩
    refine ⟨Text.trim text, ?_⟩
    rw [optionalKey_of_holds holds, filled]
    rfl

/-- The secret is named when it is named by each of two steps. -/
theorem blames_of_bind {α β : Type} {x : Except Error α} {f : α → Except Error β}
    (first : ∀ e, x = .error e → e.BlamesSecret location)
    (second : ∀ a e, f a = .error e → e.BlamesSecret location) (h : x >>= f = .error e) :
    e.BlamesSecret location := by
  cases x with
  | error e' =>
    cases h
    exact first e rfl
  | ok a => exact second a e h

theorem blames_of_requiredKey (h : requiredKey data key location = .error e) :
    e.BlamesSecret location := by
  refine blames_of_bind (fun _ => blames_of_optionalKey) ?_ h
  rintro (_ | value) e ⟨⟩
  exact ⟨"secret ", " is missing key " ++ key, by simp [String.append_assoc]⟩

end Keys

section Data

variable {data : SecretData} {location : SecretLocation} {c : Credentials} {e : Error}

theorem ofSecret_eq_ok :
    ofSecret data location = .ok c ↔
      requiredKey data clientIdKey location = .ok c.clientId ∧
        requiredKey data clientSecretKey location = .ok c.clientSecret ∧
        optionalKey data baseUrlKey location = .ok c.baseUrl := by
  unfold ofSecret
  rcases requiredKey data clientIdKey location with e | clientId
  · simp [bind, Except.bind]
  rcases requiredKey data clientSecretKey location with e | clientSecret
  · simp [bind, Except.bind]
  rcases optionalKey data baseUrlKey location with e | baseUrl
  · simp [bind, Except.bind]
  cases c
  simp [bind, Except.bind, pure, Except.pure]

/-- There are credentials in the data of a secret exactly when it is usable. -/
theorem exists_ofSecret : (∃ c, ofSecret data location = .ok c) ↔ IsUsable data := by
  simp only [ofSecret_eq_ok]
  constructor
  · rintro ⟨c, clientId, clientSecret, baseUrl⟩
    exact ⟨exists_requiredKey.mp ⟨_, clientId⟩, exists_requiredKey.mp ⟨_, clientSecret⟩,
      exists_optionalKey.mp ⟨_, baseUrl⟩⟩
  · intro h
    obtain ⟨clientId, hasId⟩ := exists_requiredKey.mpr h.clientId
    obtain ⟨clientSecret, hasSecret⟩ := exists_requiredKey.mpr h.clientSecret
    obtain ⟨baseUrl, hasUrl⟩ := exists_optionalKey.mpr h.baseUrl
    exact ⟨{ clientId, clientSecret, baseUrl }, hasId, hasSecret, hasUrl⟩

theorem areIn_of_ofSecret (h : ofSecret data location = .ok c) : c.AreIn data := by
  obtain ⟨clientId, clientSecret, baseUrl⟩ := ofSecret_eq_ok.mp h
  refine ⟨isValue_of_optionalKey (requiredKey_eq_ok.mp clientId),
    isValue_of_optionalKey (requiredKey_eq_ok.mp clientSecret), fun url same => ?_, ?_⟩
  · rw [same] at baseUrl
    exact isValue_of_optionalKey baseUrl
  · rw [← @optionalKey_eq_none data baseUrlKey location, baseUrl, Except.ok.injEq]

theorem blames_of_ofSecret (h : ofSecret data location = .error e) : e.BlamesSecret location := by
  refine blames_of_bind (fun _ => blames_of_requiredKey) (fun clientId _ => ?_) h
  refine blames_of_bind (fun _ => blames_of_requiredKey) (fun clientSecret _ => ?_)
  exact blames_of_bind (fun _ => blames_of_optionalKey) (fun baseUrl _ => nofun)

end Data

/-- What a client asks of its credentials. -/
structure Suffice (c : Credentials) : Prop where
  clientId : c.clientId.isEmpty = false
  clientSecret : c.clientSecret.isEmpty = false

theorem exists_ofCredentials {c : Credentials} :
    (∃ client, Client.ofCredentials c = .ok client) ↔ c.Suffice := by
  unfold Client.ofCredentials
  constructor
  · rintro ⟨client, h⟩
    split at h
    · cases h
    next required =>
      rw [Bool.or_eq_true, not_or, Bool.not_eq_true, Bool.not_eq_true] at required
      exact ⟨required.1, required.2⟩
  · intro h
    simp [h.clientId, h.clientSecret]

/-- Something is left of a text that is not blank. -/
theorem isEmpty_of_isValue {data : SecretData} {key value : String} (h : IsValue data key value) :
    value.isEmpty = false := by
  obtain ⟨text, -, filled, trimmed⟩ := h
  obtain ⟨front, back, within, before, after⟩ := trimmed.within
  by_contra empty
  rw [Bool.not_eq_false, String.isEmpty_iff] at empty
  have blank : Text.isBlankText text = true := by
    rw [Text.isBlankText, within, empty, List.all_append, List.all_append, before, after]
    rfl
  rw [filled] at blank
  cases blank

theorem AreIn.suffice {c : Credentials} {data : SecretData} (h : c.AreIn data) : c.Suffice :=
  ⟨isEmpty_of_isValue h.clientId, isEmpty_of_isValue h.clientSecret⟩

/-- A connector, whatever clients it keeps, sets up a client with credentials that suffice. -/
theorem Suffice.exists_connect {c : Credentials} (h : c.Suffice) (connector : Connector) :
    ∃ entry, (connector.connect c).1 = .ok entry := by
  obtain ⟨client, made⟩ := exists_ofCredentials.mpr h
  unfold Connector.connect
  dsimp only
  split
  · exact ⟨_, rfl⟩
  · rw [made]
    exact ⟨_, rfl⟩

end Credentials

namespace Service

/-- What is made of what was found of the secret with the credentials. -/
structure Resolves (found : Except Error (Option SecretData)) (location : SecretLocation)
    (result : Except Error Credentials) : Prop where
  accepts : (∃ c, result = .ok c) ↔ ∃ data, found = .ok (some data) ∧ Credentials.IsUsable data
  reads : ∀ c, result = .ok c → ∃ data, found = .ok (some data) ∧ c.AreIn data
  /-- A client can be set up with the credentials. -/
  connects : ∀ c, result = .ok c → (∃ client, Client.ofCredentials c = .ok client) ∧
    ∀ connector : Connector, ∃ entry, (connector.connect c).1 = .ok entry
  unread : ∀ e, found = .error e → result = .error e
  /-- A secret that was looked for and is not usable is named. -/
  blames : ∀ answer e, found = .ok answer → result = .error e → e.BlamesSecret location

/-- What is made of what was found of the secret. -/
def resolve (location : SecretLocation) :
    Except Error (Option SecretData) → Except Error Credentials
  | .error e => .error e
  | .ok none => .error (.credentials ("secret " ++ location.display ++ " not found"))
  | .ok (some data) => Credentials.ofSecret data location

theorem resolves_resolve (found : Except Error (Option SecretData)) (location : SecretLocation) :
    Resolves found location (resolve location found) := by
  rcases found with e | _ | data
  · exact ⟨iff_of_false nofun nofun, nofun, nofun, fun _ same => by cases same; rfl, nofun⟩
  · refine ⟨iff_of_false nofun nofun, nofun, nofun, nofun, ?_⟩
    rintro _ _ ⟨⟩ ⟨⟩
    exact ⟨"secret ", " not found", rfl⟩
  · refine ⟨?_, fun c read => ⟨data, rfl, Credentials.areIn_of_ofSecret read⟩, fun c read => ?_,
      nofun, fun _ e _ => Credentials.blames_of_ofSecret⟩
    · refine Credentials.exists_ofSecret.trans ⟨fun usable => ⟨data, rfl, usable⟩, ?_⟩
      rintro ⟨_, ⟨⟩, usable⟩
      exact usable
    · have suffice := (Credentials.areIn_of_ofSecret read).suffice
      exact ⟨Credentials.exists_ofCredentials.mpr suffice, suffice.exists_connect⟩

theorem run_credentialsAt {σ : Type} (answer : (q : Question) → σ → Answer q × σ)
    (location : SecretLocation) (s : σ) :
    ((credentialsAt location).run answer s).1 =
      resolve location ((call (.readSecret .credentials location)).run answer s).1 := by
  have splits : (credentialsAt location).run answer s = _ := Procedure.run_bind ..
  rw [splits]
  rcases (call (.readSecret .credentials location)).run answer s with ⟨e | _ | data, s'⟩ <;> rfl

/-- Under a guard that does not fire, credentials come of every secret that is usable and of no
other, and a client can be set up with them. -/
theorem resolves_credentialsAt {κ : Type} (W : Surroundings κ) (g : Guard)
    (location : SecretLocation) (s : Scene κ) (lets : W.LetsRead .credentials location s g) :
    Resolves (W.secret .credentials location s) location
      ((credentialsAt location).run (W.answer (.under g none)) s).1 := by
  rw [run_credentialsAt, lets.run_call]
  exact resolves_resolve _ location

/-- A place where all secrets have the same data and are read at once. -/
def vault : Surroundings SecretData where
  duration _ _ _ := 0
  work
    | .readSecret .., _, data => (.ok (some data), data)
    | .createInstance _, _, data => (.error (.unimplemented "instances"), data)
    | .getInstance _, _, data => (.error (.unimplemented "instances"), data)
    | .startInstance _, _, data => (.error (.unimplemented "instances"), data)
    | .deleteInstance _, _, data => (.error (.unimplemented "instances"), data)
    | .deleteLoadBalancer _, _, data => (.error (.unimplemented "load balancers"), data)
  leave _ _ data := data
  connect _ _ _ := .ok ()
  clock _ _ := default

/-- A client ID with blank characters around it, and an address that is blank. -/
theorem resolves_credentialsAt_of_padded :
    let data : SecretData := .ofList [
      ("clientID", " id\n".toUTF8), ("clientSecret", "secret".toUTF8), ("baseURL", " ".toUTF8)]
    let location : SecretLocation := { «namespace» := "default", name := "cloud" }
    let scene : Scene SecretData := { world := data, instant := 0, log := [] }
    let guard : Guard := { deadline := 100 }
    let result := ((credentialsAt location).run (vault.answer (.under guard none)) scene).1
    vault.LetsRead .credentials location scene guard ∧
      Resolves (.ok (some data)) location result ∧
      result = .ok { clientId := "id", clientSecret := "secret" } := by
  intro data location scene guard result
  have lets : vault.LetsRead .credentials location scene guard := ⟨0, by decide⟩
  refine ⟨lets, resolves_credentialsAt vault _ location scene lets, ?_⟩
  decide +kernel

end Service

end MachineProvider
