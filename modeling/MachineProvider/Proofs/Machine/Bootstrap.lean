import MachineProvider.Proofs.Cloud.Creation
import MachineProvider.Proofs.Encoding.Base64
import MachineProvider.Proofs.Encoding.Gzip
import MachineProvider.Proofs.Json
import MachineProvider.Proofs.Machine.Requests

/-!
# Bootstrap data

The bootstrap data of a machine is a value of a secret, and any bytes may be such a value. They are
written as user data, from which they can be read back byte for byte with any lossless compressor
(`carries_userData`), and the user data is a part of the request for the instance and of what a
client posts to create it (`InfraMachine.Turn.delivers`). When there is no such value there is no
user data.
-/

namespace MachineProvider

open Procedure

/-- Whether user data stands for bytes: reading it as base64 gives the bytes, or a gzip stream of
them if they were compressed. -/
def Carries (compressed : Bool) (bytes : List UInt8) (text : String) : Prop :=
  if compressed then ∃ stream, Base64.decode? text = some stream ∧ Gzip.decode? stream = some bytes
  else Base64.decode? text = some bytes

/-- Whether there is no bootstrap data in what was found of a secret: it cannot be read, it does not
exist, or it does not have the key. -/
def LacksBootstrapData : Except Error (Option SecretData) → Prop
  | .error _ => True
  | .ok none => True
  | .ok (some data) => data.get? bootstrapDataKey = none

/-- What is made of the secret with bootstrap data. -/
structure WritesUserData (found : Except Error (Option SecretData)) (compress : Bool)
    (result : Except Error String) : Prop where
  carries : ∀ data bytes, found = .ok (some data) → data.get? bootstrapDataKey = some bytes →
    ∃ text, result = .ok text ∧ Carries compress bytes.toList text
  fails : (∃ e, result = .error e) ↔ LacksBootstrapData found

theorem carries_userData {gzip : Gzip.Compressor} (lossless : gzip.IsLossless) (compress : Bool)
    (bytes : List UInt8) : Carries compress bytes (userData gzip compress bytes) := by
  cases compress with
  | true => exact ⟨gzip bytes, Base64.decode?_encode _, lossless bytes⟩
  | false => exact Base64.decode?_encode bytes

/-- There is bootstrap data, or there is none. -/
theorem not_lacksBootstrapData {found : Except Error (Option SecretData)} :
    ¬ LacksBootstrapData found ↔
      ∃ data bytes, found = .ok (some data) ∧ data.get? bootstrapDataKey = some bytes := by
  rcases found with e | _ | data <;> simp [LacksBootstrapData, Option.ne_none_iff_exists']

namespace InfraMachine

section Reading

variable {σ : Type} (answer : (q : Service.Question) → σ → Service.Answer q × σ)
  (location : SecretLocation) (compress : Bool) (gzip : Gzip.Compressor) (s : σ)

/-- The value of the secret is written as user data. -/
theorem bootstrapData_eq_of_value {data : SecretData} {bytes : ByteArray}
    (found : ((Service.call (.readSecret .bootstrapData location)).run answer s).1 =
      .ok (some data))
    (value : data.get? bootstrapDataKey = some bytes) :
    ((bootstrapData location compress gzip).run answer s).1 =
      .ok (userData gzip compress bytes.toList) := by
  rcases run_bootstrapData answer location compress gzip s with
    ⟨data', bytes', found', value', ends⟩ | ⟨-, without⟩
  · cases found.symm.trans found'
    cases value.symm.trans value'
    rw [ends]
  · exact absurd value (without data bytes found)

theorem writesUserData_bootstrapData (lossless : gzip.IsLossless) :
    WritesUserData ((Service.call (.readSecret .bootstrapData location)).run answer s).1 compress
      ((bootstrapData location compress gzip).run answer s).1 := by
  refine ⟨fun data bytes found value => ?_, ?_⟩
  · exact ⟨_, bootstrapData_eq_of_value answer location compress gzip s found value,
      carries_userData lossless compress bytes.toList⟩
  · rcases run_bootstrapData answer location compress gzip s with
      ⟨data, bytes, found, value, ends⟩ | ⟨⟨e, ends⟩, without⟩
    · rw [ends, found]
      exact iff_of_false nofun (by simp [LacksBootstrapData, value])
    · rw [ends]
      refine iff_of_true ⟨e, rfl⟩ ?_
      by_contra present
      obtain ⟨data, bytes, found, value⟩ := not_lacksBootstrapData.mp present
      exact without data bytes found value

end Reading

namespace Turn

/-- What a request for an instance makes of bootstrap data. -/
structure Hands (t : Turn) (m : InfraMachine) (request : InstanceRequest) (bytes : ByteArray)
    (text : String) : Prop where
  /-- The reconcile has read the bootstrap data from its secret, and has compressed it if the
  machine says so. -/
  source : ∃ secret data, t.scope.bootstrapDataSecret = some secret ∧
    (t.bootstrap secret).1 = .ok (some data) ∧ data.get? bootstrapDataKey = some bytes ∧
    ((bootstrapData { «namespace» := t.scope.namespace, name := secret }
      (m.spec.uncompressedUserData = some false) t.gzip).run t.answer t.client.2).1 = .ok text
  carries : Carries (m.spec.uncompressedUserData = some false) bytes.toList text
  userData : request.userData = some text
  /-- Whatever a client is answered while it creates the instance, that is what it posts. -/
  posts : ∀ (c : Client) {σ : Type} (answer : (q : Client.Question) → σ → Client.Answer q × σ)
    (s : σ) (sent : HttpRequest), .sends sent ∈ ((c.createInstance request).ran answer s).2 →
    (Client.Deed.sends sent).isPost = true →
    ∃ body, sent.body = some body ∧ body.find? "user_data" = some (.str text)

/-- What becomes of bootstrap data in a reconcile. -/
structure Delivers (t : Turn) (m : InfraMachine) : Prop where
  reads : ∀ location compress (s : t.Scene),
    t.surroundings.LetsRead .bootstrapData location s t.guard →
    WritesUserData (t.surroundings.secret .bootstrapData location s) compress
      ((bootstrapData location compress t.gzip).run t.answer s).1
  asks : ∀ request, .createInstance request ∈ t.asked m → ∃ bytes text, t.Hands m request bytes text

variable {t : Turn} {m : InfraMachine}

theorem find?_userData {request : InstanceRequest} {text : String}
    (h : request.userData = some text) :
    (Message.createInstance request).find? "user_data" = some (.str text) := by
  have member : (Message.createInstance request).find? "user_data" =
      request.userData.map .str := Json.find?_ofMembers (by simp) _
  rw [member, h]
  rfl

/-- An instance is sought with the bootstrap data of its machine. -/
theorem Seeks.hands (lossless : t.gzip.IsLossless) {request : InstanceRequest} {s : t.Scene}
    (h : t.Seeks m (.createInstance request) s) : ∃ bytes text, t.Hands m request bytes text := by
  cases h with
  | @creation reaches unnamed secret made data read bytes value =>
      let compress : Bool := m.spec.uncompressedUserData = some false
      have ends := bootstrapData_eq_of_value t.answer
        { «namespace» := t.scope.namespace, name := secret } compress t.gzip t.client.2 read value
      exact ⟨bytes, MachineProvider.userData t.gzip compress bytes.toList,
        ⟨secret, data, made, read, value, ends⟩, carries_userData lossless .., rfl,
        fun c _ answer s sent member posted =>
          ⟨_, c.body_of_isPost _ answer s member posted, find?_userData rfl⟩⟩

/-- Bootstrap data arrives byte for byte, whatever lossless compressor is used. -/
theorem delivers (t : Turn) (m : InfraMachine) (lossless : t.gzip.IsLossless) : t.Delivers m where
  reads location compress s lets := by
    have written := writesUserData_bootstrapData t.answer location compress t.gzip s lossless
    have read : ((Service.call (.readSecret .bootstrapData location)).run t.answer s).1 = _ :=
      lets.run_call
    rwa [read] at written
  asks request member := by
    obtain ⟨s, seeks, -⟩ := ((t.course m).mem_iff (by simp)).mp member
    exact seeks.hands lossless

/-- A compressor that writes the bootstrap data of the sample with the fixed codes, and other bytes
in stored blocks. -/
def sampleGzip : Gzip.Compressor := fun bytes =>
  if bytes = "run".toUTF8.toList then
    Gzip.header ++ [0x2B, 0x2A, 0xCD, 0x03, 0x00, 0xC0, 0xA4, 0x76, 0x50, 0x03, 0x00, 0x00, 0x00]
  else Gzip.encode bytes

theorem isLossless_sampleGzip : sampleGzip.IsLossless := by
  intro bytes
  by_cases sample : bytes = "run".toUTF8.toList
  · subst sample
    decide +kernel
  · rw [sampleGzip, if_neg sample]
    exact Gzip.isLossless_encode bytes

/-- The bootstrap data of the sample arrives, compressed as its machine wants it. -/
theorem delivers_of_sample :
    let t : Turn := { sampleTurn .running with gzip := sampleGzip }
    let m : InfraMachine := { sampleMachine with spec.uncompressedUserData := some false }
    let location : SecretLocation := { «namespace» := "default", name := "gpu-0-bootstrap" }
    t.gzip.IsLossless ∧
      t.surroundings.LetsRead .bootstrapData location t.opening t.guard ∧
      (∃ text, ((bootstrapData location true t.gzip).run t.answer t.opening).1 = .ok text ∧
        Carries true "run".toUTF8.toList text) ∧
      ∃ request text, .createInstance request ∈ t.asked m ∧
        t.Hands m request "run".toUTF8 text := by
  intro t m location
  have lets : t.surroundings.LetsRead .bootstrapData location t.opening t.guard :=
    ⟨0, by decide⟩
  have delivered := t.delivers m isLossless_sampleGzip
  have value : sampleSecret.get? bootstrapDataKey = some "run".toUTF8 := rfl
  have carried := (delivered.reads location true t.opening lets).carries sampleSecret _ rfl value
  have asked : t.asked m = [.createInstance (.ofMachine m t.scope t.config.defaultImage
      (userData t.gzip true "run".toUTF8.toList))] := rfl
  have member := asked ▸ List.mem_singleton_self _
  obtain ⟨bytes, text, hands⟩ := delivered.asks _ member
  obtain ⟨secret, data, made, read, valued, -⟩ := hands.source
  -- The machine has one secret, and the secret one value.
  cases made
  cases read
  cases value.symm.trans valued
  exact ⟨isLossless_sampleGzip, lets, carried, _, text, member, hands⟩

end Turn

end InfraMachine

end MachineProvider
