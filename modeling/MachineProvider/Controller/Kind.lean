import MachineProvider.Cluster
import MachineProvider.ClusterApi
import MachineProvider.Machine

/-!
# Kinds of objects

The four kinds of objects that the controllers work with: the infrastructure machines and clusters,
which they write, and the machines and clusters that own them, which they only read.
-/

namespace MachineProvider

/-- A kind of objects. -/
inductive Kind where
  | infraMachine
  | infraCluster
  | machine
  | cluster
  deriving DecidableEq, Repr, Inhabited

namespace Kind

/-- What the objects of a kind want. -/
abbrev Spec : Kind → Type
  | infraMachine => MachineSpec
  | infraCluster => ClusterSpec
  | machine => ClusterApi.MachineSpec
  | cluster => ClusterApi.ClusterSpec

/-- What was observed of the objects of a kind. -/
abbrev Status : Kind → Type
  | infraMachine => MachineStatus
  | infraCluster => ClusterStatus
  | machine => Empty
  | cluster => ClusterApi.ClusterStatus

/-- The objects of a kind. -/
abbrev Object (kind : Kind) : Type := MachineProvider.Object kind.Spec kind.Status

instance (kind : Kind) : DecidableEq kind.Spec :=
  match kind with
  | infraMachine => inferInstanceAs (DecidableEq MachineSpec)
  | infraCluster => inferInstanceAs (DecidableEq ClusterSpec)
  | machine => inferInstanceAs (DecidableEq ClusterApi.MachineSpec)
  | cluster => inferInstanceAs (DecidableEq ClusterApi.ClusterSpec)

instance (kind : Kind) : DecidableEq kind.Status :=
  match kind with
  | infraMachine => inferInstanceAs (DecidableEq MachineStatus)
  | infraCluster => inferInstanceAs (DecidableEq ClusterStatus)
  | machine => inferInstanceAs (DecidableEq Empty)
  | cluster => inferInstanceAs (DecidableEq ClusterApi.ClusterStatus)

/-- The type that the objects of a kind are written with. -/
def type : Kind → ObjectType
  | infraMachine => InfraMachine.type
  | infraCluster => InfraCluster.type
  | machine => ClusterApi.Machine.type
  | cluster => ClusterApi.Cluster.type

/-- Reads an object of a kind. -/
def decode : (kind : Kind) → Json → Option kind.Object
  | infraMachine => InfraMachine.decode
  | infraCluster => InfraCluster.decode
  | machine => ClusterApi.Machine.decode
  | cluster => ClusterApi.Cluster.decode

/-- Writes an object of a kind. -/
def encode : (kind : Kind) → kind.Object → Json
  | infraMachine => InfraMachine.encode
  | infraCluster => InfraCluster.encode
  | machine => ClusterApi.Machine.encode
  | cluster => ClusterApi.Cluster.encode

end Kind

end MachineProvider
