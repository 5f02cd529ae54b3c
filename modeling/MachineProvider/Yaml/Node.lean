import MachineProvider.Yaml.Token

/-!
# YAML documents

A document is a tree of nodes. Some nodes are anchored, and an alias stands for the node with its
anchor. Anchors are known by numbers; an alias may stand inside of the node that it stands for.
-/

namespace MachineProvider.Yaml

/-- A node of a document. -/
inductive Node where
  | scalar (tag : Option String) (style : ScalarStyle) (text : String)
  | sequence (items : List Node)
  | mapping (entries : List (Node × Node))
  | alias (anchor : Nat)
  deriving Inhabited

/-- A scalar that is not written at all. -/
def Node.empty : Node := .scalar none .plain ""

/-- A document. -/
structure Document where
  /-- The topmost node; nothing when there is no text at all. -/
  root : Option Node
  /-- The anchored nodes by the numbers of their anchors. -/
  anchored : List (Nat × Node) := []
  deriving Inhabited

/-- The node that a node stands for. -/
def Document.resolve? (d : Document) : Node → Option Node
  | .alias anchor => d.anchored.lookup anchor
  | node => some node

end MachineProvider.Yaml
