import MachineProvider.Controller.Kind
import MachineProvider.Proofs.Json

/-!
# Objects come back as they were written

The controllers read an object, change it and write it back as a whole, so whatever reading or
writing drops is lost to the user. Each record is written so that it is read again as it was: the
readers of its fields undo their writers, and what is left out is what the reader puts in. The one
state that does not come back is a known word that is kept as an unknown one, and no such state is
ever read (`canonical_of_decode`). `decode_encode_of_decode` collects this for all kinds of objects.
-/

namespace MachineProvider

open Json

section Machines

/-- Volume options are read as they were written. -/
theorem Volume.decode_encode : Undoes decode encode := by
  intro v
  refine read_record (by simp) ?_
  refine read_field (written_eq undoes_int64 rfl) ?_
  refine read_field (text_eq rfl) ?_
  refine read_field (optional_eq undoes_bool rfl rfl) ?_
  refine read_field (optional_eq undoes_int64 rfl rfl) ?_
  rfl

/-- A network interface is read as it was written. -/
theorem NetworkInterface.decode_encode : Undoes decode encode := by
  intro n
  refine read_record (by simp) ?_
  refine read_field (text_eq rfl) ?_
  refine read_field (optional_eq undoes_int64 rfl rfl) ?_
  refine read_field (optional_eq undoes_bool rfl rfl) ?_
  refine read_field (optional_eq undoes_bool rfl rfl) ?_
  refine read_field (optional_eq undoes_int64 rfl rfl) ?_
  refine read_field (items_eq undoes_string rfl) ?_
  rfl

/-- Spot options are read as they were written. -/
theorem SpotOptions.decode_encode : Undoes decode encode := by
  intro s
  refine read_record (by simp) ?_
  refine read_field (optional_eq undoes_string rfl rfl) ?_
  rfl

/-- What a machine wants is read as it was written. -/
theorem MachineSpec.decode_encode : Undoes decode encode := by
  intro s
  refine read_record (by simp) ?_
  refine read_field (required_eq undoes_string rfl) ?_
  refine read_field (text_eq rfl) ?_
  refine read_field (text_eq rfl) ?_
  refine read_field (optional_eq undoes_string rfl rfl) ?_
  refine read_field (entries_eq undoes_string rfl) ?_
  refine read_field (entries_eq undoes_string rfl) ?_
  refine read_field (optional_eq Volume.decode_encode rfl rfl) ?_
  refine read_field (optional_eq undoes_bool rfl rfl) ?_
  refine read_field (items_eq NetworkInterface.decode_encode rfl) ?_
  refine read_field (optional_eq undoes_bool rfl rfl) ?_
  refine read_field (optional_eq SpotOptions.decode_encode rfl rfl) ?_
  rfl

theorem AddressType.ofWord?_word (type : AddressType) : ofWord? type.word = some type := by
  cases type <;> rfl

theorem AddressType.undoes_word : Undoes (name? ofWord?) fun type => .str type.word :=
  ofWord?_word

/-- An address is read as it was written. -/
theorem MachineAddress.decode_encode : Undoes decode encode := by
  intro a
  change decode (ofMembers
    [("type", some (.str a.type.word)), ("address", some (.str a.address))]) = _
  refine read_record (by simp) ?_
  refine read_field (required_eq AddressType.undoes_word rfl) ?_
  refine read_field (required_eq undoes_string rfl) ?_
  rfl

theorem Severity.ofWord?_word (severity : Severity) : ofWord? severity.word = some severity := by
  cases severity <;> rfl

theorem Severity.undoes_word : Undoes (name? ofWord?) fun severity => .str severity.word :=
  ofWord?_word

/-- A severity is left out when its word is empty, and then it is the default. -/
theorem Severity.withDefault_word {fields : Fields} {name : String} {severity : Severity}
    (member : fields name = ifText severity.word) :
    fields.withDefault name (name? ofWord?) Severity.none = some severity := by
  cases severity with
  | none => exact default_eq member
  | error | warning | info =>
      exact written_eq undoes_word member

/-- A condition is read as it was written. -/
theorem Condition.decode_encode : Undoes decode encode := by
  intro c
  refine read_record (by simp) ?_
  refine read_field (required_eq undoes_string rfl) ?_
  refine read_field (required_eq undoes_string rfl) ?_
  refine read_field (Severity.withDefault_word rfl) ?_
  refine read_field (optional_eq undoes_string rfl rfl) ?_
  refine read_field (optional_eq undoes_string rfl rfl) ?_
  refine read_field (optional_eq undoes_string rfl rfl) ?_
  rfl

/-- Whether a state is the one that its word stands for. -/
def InstanceState.Canonical (state : InstanceState) : Prop :=
  ofWord state.word = state

theorem InstanceState.canonical_ofWord (word : String) : (ofWord word).Canonical := by
  rw [Canonical, word_ofWord]

/-- What was observed of a machine is read as it was written. -/
theorem MachineStatus.decode_encode {s : MachineStatus}
    (canonical : ∀ state ∈ s.instanceState, state.Canonical) : decode s.encode = some s := by
  have states : (s.instanceState.map (·.word)).map InstanceState.ofWord = s.instanceState := by
    cases eq : s.instanceState with
    | none => rfl
    | some state => exact congrArg some (canonical state eq)
  have words : ifSome (fun state => .str (InstanceState.word state)) s.instanceState =
      ifSome .str (s.instanceState.map (·.word)) :=
    (Option.map_map ..).symm
  refine read_record (by simp) ?_
  refine read_field (written_eq undoes_bool rfl) ?_
  refine read_field (items_eq MachineAddress.decode_encode rfl) ?_
  refine read_field (optional_eq undoes_string rfl words) ?_
  refine read_field (items_eq Condition.decode_encode rfl) ?_
  refine read_field (optional_eq undoes_string rfl rfl) ?_
  refine read_field (optional_eq undoes_string rfl rfl) ?_
  refine read_field (optional_eq undoes_string rfl rfl) ?_
  rw [states]
  rfl

/-- Only canonical states are read. -/
theorem MachineStatus.canonical_of_decode {json : Json} {s : MachineStatus}
    (h : decode json = some s) : ∀ state ∈ s.instanceState, state.Canonical := by
  simp only [decode, Option.bind_eq_bind, Option.bind_eq_some_iff] at h
  obtain ⟨_, -, _, -, _, -, word, -, _, -, _, -, _, -, _, -, eq⟩ := h
  obtain rfl := Option.some.inj eq
  intro state member
  obtain ⟨word, -, rfl⟩ := Option.map_eq_some_iff.mp member
  exact InstanceState.canonical_ofWord word

end Machines

section Clusters

/-- An endpoint is read as it was written. -/
theorem Endpoint.decode_encode : Undoes decode encode := by
  intro e
  change decode (ofMembers [("host", some (.str e.host)), ("port", some (.int e.port.toInt))]) = _
  refine read_record (by simp) ?_
  refine read_field (written_eq undoes_string rfl) ?_
  refine read_field (written_eq undoes_int32 rfl) ?_
  rfl

/-- Load balancer options are read as they were written. -/
theorem LoadBalancerSpec.decode_encode : Undoes decode encode := by
  intro s
  refine read_record (by simp) ?_
  refine read_field (optional_eq undoes_bool rfl rfl) ?_
  refine read_field (text_eq rfl) ?_
  refine read_field (text_eq rfl) ?_
  rfl

/-- A wanted private network is read as it was written. -/
theorem VpcSpec.decode_encode : Undoes decode encode := by
  intro s
  refine read_record (by simp) ?_
  refine read_field (text_eq rfl) ?_
  refine read_field (text_eq rfl) ?_
  refine read_field (entries_eq undoes_string rfl) ?_
  rfl

/-- A wanted subnet is read as it was written. -/
theorem SubnetSpec.decode_encode : Undoes decode encode := by
  intro s
  refine read_record (by simp) ?_
  refine read_field (text_eq rfl) ?_
  refine read_field (text_eq rfl) ?_
  refine read_field (text_eq rfl) ?_
  refine read_field (written_eq undoes_bool rfl) ?_
  refine read_field (entries_eq undoes_string rfl) ?_
  rfl

/-- A wanted network is read as it was written. -/
theorem NetworkSpec.decode_encode : Undoes decode encode := by
  intro s
  refine read_record (by simp) ?_
  refine read_field (optional_eq VpcSpec.decode_encode rfl rfl) ?_
  refine read_field (items_eq SubnetSpec.decode_encode rfl) ?_
  rfl

/-- A reference to a secret is read as it was written. -/
theorem SecretReference.decode_encode : Undoes decode encode := by
  intro r
  refine read_record (by simp) ?_
  refine read_field (required_eq undoes_string rfl) ?_
  refine read_field (optional_eq undoes_string rfl rfl) ?_
  rfl

/-- What a cluster wants is read as it was written. -/
theorem ClusterSpec.decode_encode : Undoes decode encode := by
  intro s
  refine read_record (by simp) ?_
  refine read_field (text_eq rfl) ?_
  refine read_field (written_eq Endpoint.decode_encode rfl) ?_
  refine read_field (optional_eq LoadBalancerSpec.decode_encode rfl rfl) ?_
  refine read_field (optional_eq NetworkSpec.decode_encode rfl rfl) ?_
  refine read_field (optional_eq SecretReference.decode_encode rfl rfl) ?_
  rfl

/-- A failure domain is read as it was written. -/
theorem FailureDomain.decode_encode : Undoes decode encode := by
  intro d
  refine read_record (by simp) ?_
  refine read_field (written_eq undoes_bool rfl) ?_
  refine read_field (entries_eq undoes_string rfl) ?_
  rfl

/-- An observed private network is read as it was written. -/
theorem VpcStatus.decode_encode : Undoes decode encode := by
  intro s
  refine read_record (by simp) ?_
  refine read_field (text_eq rfl) ?_
  refine read_field (text_eq rfl) ?_
  refine read_field (text_eq rfl) ?_
  rfl

/-- An observed subnet is read as it was written. -/
theorem SubnetStatus.decode_encode : Undoes decode encode := by
  intro s
  refine read_record (by simp) ?_
  refine read_field (text_eq rfl) ?_
  refine read_field (text_eq rfl) ?_
  refine read_field (text_eq rfl) ?_
  refine read_field (text_eq rfl) ?_
  rfl

/-- An observed network is read as it was written. -/
theorem NetworkStatus.decode_encode : Undoes decode encode := by
  intro s
  refine read_record (by simp) ?_
  refine read_field (optional_eq VpcStatus.decode_encode rfl rfl) ?_
  refine read_field (items_eq SubnetStatus.decode_encode rfl) ?_
  rfl

/-- An observed load balancer is read as it was written. -/
theorem LoadBalancerStatus.decode_encode : Undoes decode encode := by
  intro s
  refine read_record (by simp) ?_
  refine read_field (text_eq rfl) ?_
  refine read_field (text_eq rfl) ?_
  refine read_field (text_eq rfl) ?_
  rfl

/-- What was observed of a cluster's infrastructure is read as it was written. -/
theorem ClusterStatus.decode_encode : Undoes decode encode := by
  intro s
  refine read_record (by simp) ?_
  refine read_field (written_eq undoes_bool rfl) ?_
  refine read_field (items_eq Condition.decode_encode rfl) ?_
  refine read_field (entries_eq FailureDomain.decode_encode rfl) ?_
  refine read_field (optional_eq NetworkStatus.decode_encode rfl rfl) ?_
  refine read_field (optional_eq LoadBalancerStatus.decode_encode rfl rfl) ?_
  rfl

end Clusters

namespace ClusterApi

/-- A reference is read as it was written. -/
theorem Reference.decode_encode : Undoes decode encode := by
  intro r
  refine read_record (by simp) ?_
  refine read_field (written_eq undoes_string rfl) ?_
  refine read_field (written_eq undoes_string rfl) ?_
  refine read_field (written_eq undoes_string rfl) ?_
  refine read_field (optional_eq undoes_string rfl rfl) ?_
  rfl

/-- What a cluster wants is read as it was written. -/
theorem Cluster.decodeSpec_encodeSpec : Undoes decodeSpec encodeSpec := by
  intro s
  refine read_record (by simp) ?_
  refine read_field (written_eq undoes_bool rfl) ?_
  refine read_field (optional_eq Reference.decode_encode rfl rfl) ?_
  rfl

/-- What was observed of a cluster is read as it was written. -/
theorem Cluster.decodeStatus_encodeStatus : Undoes decodeStatus encodeStatus := by
  intro s
  change decodeStatus (ofMembers [("infrastructureReady", some (.bool s.infrastructureReady))]) = _
  refine read_record (by simp) ?_
  refine read_field (written_eq undoes_bool rfl) ?_
  rfl

/-- Where bootstrap data is, is read as it was written. -/
theorem Machine.decodeBootstrap_encodeBootstrap : Undoes decodeBootstrap encodeBootstrap := by
  intro b
  refine read_record (by simp) ?_
  refine read_field (optional_eq undoes_string rfl rfl) ?_
  rfl

/-- What a machine wants is read as it was written. -/
theorem Machine.decodeSpec_encodeSpec : Undoes decodeSpec encodeSpec := by
  intro s
  refine read_record (by simp) ?_
  refine read_field (written_eq undoes_string rfl) ?_
  refine read_field (written_eq decodeBootstrap_encodeBootstrap rfl) ?_
  refine read_field (optional_eq Reference.decode_encode rfl rfl) ?_
  rfl

end ClusterApi

section Objects

/-- A reference to an owner is read as it was written. -/
theorem OwnerReference.decode_encode : Undoes decode encode := by
  intro r
  refine read_field rfl ?_
  refine read_record (by simp) ?_
  refine read_field (optional_eq (a := some r.apiVersion) undoes_string rfl rfl) ?_
  refine read_field (optional_eq undoes_string rfl (Option.map_some ..).symm) ?_
  refine read_field (optional_eq undoes_string rfl (Option.map_some ..).symm) ?_
  refine read_field (optional_eq undoes_string rfl (Option.map_some ..).symm) ?_
  refine read_field (optional_eq undoes_bool rfl rfl) ?_
  refine read_field (optional_eq undoes_bool rfl rfl) ?_
  rfl

/-- Metadata is read as it was written when the time of its deletion is. -/
theorem Metadata.decode_encode {m : Metadata}
    (time : ∀ t ∈ m.deletionTimestamp, Timestamp.parseLenient? t.toSecondsText = some t) :
    decode m.encode = some m := by
  have deletion : ∀ t ∈ m.deletionTimestamp, time? (.str t.toSecondsText) = some t := by
    intro t member
    simp only [time?, string?, Option.bind_eq_bind, Option.bind_some, time t member]
  refine read_field rfl ?_
  refine read_record (by simp) ?_
  refine read_field (optional_eq undoes_string rfl rfl) ?_
  refine read_field (optional_eq undoes_string rfl rfl) ?_
  refine read_field (optional_eq undoes_string rfl rfl) ?_
  refine read_field (optional_eq undoes_string.dictionary rfl rfl) ?_
  refine read_field (optional_eq undoes_string.dictionary rfl rfl) ?_
  refine read_field (optional_eq undoes_string.list rfl rfl) ?_
  refine read_field (optional_eq OwnerReference.decode_encode.list rfl rfl) ?_
  refine read_field (optional_eq_of_mem rfl deletion rfl) ?_
  refine read_field (optional_eq undoes_string rfl rfl) ?_
  refine read_field (optional_eq undoes_string rfl rfl) ?_
  refine read_field (optional_eq undoes_int64 rfl rfl) ?_
  rfl

variable {σ τ : Type} {decodeSpec : Json → Option σ} {encodeSpec : σ → Json}
  {decodeStatus : Json → Option τ} {encodeStatus : τ → Json}

/-- An object is read with its specification and its status as they were written, and with the
metadata that is read where its own was written. -/
theorem ObjectType.decode_encode (t : ObjectType) (spec : Undoes decodeSpec encodeSpec)
    (strict : decodeStatus null = none) {o : Object σ τ}
    (status : ∀ s ∈ o.status, decodeStatus (encodeStatus s) = some s) :
    decode decodeSpec decodeStatus (t.encode encodeSpec encodeStatus o) =
      (Metadata.decode o.metadata.encode).map fun m => { o with metadata := m } := by
  unfold decode encode
  rw [record?_ofMembers _ (by simp), Option.map_eq_bind]
  change (Metadata.decode o.metadata.encode).bind _ = _
  refine Option.bind_congr fun m _ => ?_
  refine read_field (required_eq spec rfl) ?_
  refine read_field (optional_eq_of_mem strict status rfl) ?_
  rfl

/-- The status of an object was read from somewhere. -/
theorem ObjectType.exists_status_of_decode {json : Json} {o : Object σ τ}
    (h : decode decodeSpec decodeStatus json = some o) :
    ∀ s ∈ o.status, ∃ json, decodeStatus json = some s := by
  simp only [decode, Option.bind_eq_bind, Option.bind_eq_some_iff] at h
  obtain ⟨fields, -, _, -, _, -, status, read, eq⟩ := h
  obtain rfl := Option.some.inj eq
  intro s member
  exact exists_of_optional (read.trans (congrArg some member))

end Objects

/-- What is read as an infrastructure machine is read again as it was written. -/
theorem InfraMachine.decode_encode {json : Json} {m : InfraMachine} (h : decode json = some m) :
    decode m.encode =
      (Metadata.decode m.metadata.encode).map fun metadata => { m with metadata } := by
  refine ObjectType.decode_encode type MachineSpec.decode_encode rfl ?_
  intro s member
  obtain ⟨origin, read⟩ := ObjectType.exists_status_of_decode h s member
  exact MachineStatus.decode_encode (MachineStatus.canonical_of_decode read)

/-- An infrastructure cluster is read as it was written. -/
theorem InfraCluster.decode_encode (c : InfraCluster) :
    decode c.encode =
      (Metadata.decode c.metadata.encode).map fun metadata => { c with metadata } :=
  ObjectType.decode_encode type ClusterSpec.decode_encode rfl
    fun s _ => ClusterStatus.decode_encode s

/-- A cluster is read as it was written. -/
theorem ClusterApi.Cluster.decode_encode (c : Cluster) :
    decode c.encode =
      (Metadata.decode c.metadata.encode).map fun metadata => { c with metadata } :=
  ObjectType.decode_encode type decodeSpec_encodeSpec rfl
    fun s _ => decodeStatus_encodeStatus s

/-- A machine is read as it was written. -/
theorem ClusterApi.Machine.decode_encode (m : Machine) :
    decode m.encode =
      (Metadata.decode m.metadata.encode).map fun metadata => { m with metadata } := by
  -- There is no status that could come back.
  have absent : m.status = none := by
    cases eq : m.status with
    | none => rfl
    | some status => exact status.elim
  unfold decode encode ObjectType.encode
  rw [record?_ofMembers _ (by simp), Option.map_eq_bind]
  change (Metadata.decode m.metadata.encode).bind _ = _
  refine Option.bind_congr fun metadata _ => ?_
  refine read_field (required_eq decodeSpec_encodeSpec rfl) ?_
  rw [absent]
  rfl

/-- What is read as an object of any kind, or as a condition, is read again as it was written. What
becomes of the metadata is for its own reader and writer to say; where they keep it, the object
comes back as it was and is written as before. -/
theorem Kind.decode_encode_of_decode :
    (∀ (kind : Kind) (json : Json) (o : kind.Object), kind.decode json = some o →
      kind.decode (kind.encode o) =
          (Metadata.decode o.metadata.encode).map (fun metadata => { o with metadata }) ∧
        (Metadata.decode o.metadata.encode = some o.metadata →
          kind.decode (kind.encode o) = some o ∧
            (kind.decode (kind.encode o)).map kind.encode = some (kind.encode o))) ∧
      ∀ (json : Json) (c : Condition), Condition.decode json = some c →
        Condition.decode c.encode = some c ∧
          (Condition.decode c.encode).map Condition.encode = some c.encode := by
  have again (kind : Kind) (json : Json) (o : kind.Object) (h : kind.decode json = some o) :
      kind.decode (kind.encode o) =
        (Metadata.decode o.metadata.encode).map fun metadata => { o with metadata } := by
    cases kind with
    | infraMachine => exact InfraMachine.decode_encode h
    | infraCluster => exact InfraCluster.decode_encode o
    | machine => exact ClusterApi.Machine.decode_encode o
    | cluster => exact ClusterApi.Cluster.decode_encode o
  refine ⟨fun kind json o h => ⟨again kind json o h, fun kept => ?_⟩, fun json c _ => ?_⟩
  · have back : kind.decode (kind.encode o) = some o := by
      rw [again kind json o h, kept]
      rfl
    exact ⟨back, by rw [back]; rfl⟩
  · have back : Condition.decode c.encode = some c := Condition.decode_encode c
    exact ⟨back, by rw [back]; rfl⟩

/-- A machine whose instance reboots, with an unknown member and a value that is `null`. -/
def InfraMachine.rebooting : Json :=
  .obj [
    ("metadata", .obj [("name", .str "worker-0"), ("managedFields", .arr [])]),
    ("spec", .obj [("instanceType", .str "1V100.6V"), ("image", .str ""), ("publicIP", .null),
      ("rootVolume", .obj [("iops", .int 3000)]), ("additionalTags", .obj [("team", .str "ml")])]),
    ("status", .obj [("ready", .bool true), ("instanceState", .str "rebooting"),
      ("addresses", .arr [.arr [.str "InternalIP", .str "10.0.0.7"]]),
      ("conditions", .arr [.obj [("type", .str "Ready"), ("status", .str "False"),
        ("severity", .str "")]])])]

/-- The machine whose instance reboots comes back with everything that was read of it, and so does
its condition. -/
theorem InfraMachine.rebooting_comes_back :
    (∃ m, Kind.decode .infraMachine rebooting = some m ∧
      (InfraMachine.statusOrNew m).instanceState = some (.unknown "rebooting") ∧
      Kind.decode .infraMachine (Kind.encode .infraMachine m) = some m) ∧
    ∃ c, Condition.decode (.arr [.str "Ready", .str "True", .str "Info"]) = some c ∧
      c.severity = .info ∧ Condition.decode c.encode = some c := by
  refine ⟨⟨_, rfl, rfl, ?_⟩, ⟨_, rfl, rfl, ?_⟩⟩
  · exact ((Kind.decode_encode_of_decode.1 .infraMachine rebooting _ rfl).2 rfl).1
  · exact (Kind.decode_encode_of_decode.2 (.arr [.str "Ready", .str "True", .str "Info"]) _ rfl).1

end MachineProvider
