import StyleImport.Yaml.Schema

/-!
# Nodes of YAML documents

A document as a graph. Every value has a node with its kind, and a node holds the numbers of the
nodes of its parts. A name that is used several times in a document leads to one node, which may
even be a part of itself.

## Main definitions

- `Yaml.Node`: a value of a document with its kind.
- `Yaml.Graph`: the nodes of a document.
-/

namespace StyleImport

namespace Yaml

/-- The number of a node. -/
abbrev NodeId := Nat

/-- What a node holds. -/
inductive Content
  /-- The text of a scalar. -/
  | scalar (text : Text)
  /-- The items of a list. -/
  | sequence (items : List NodeId)
  /-- The keys and values of a mapping. -/
  | mapping (entries : List (NodeId × NodeId))
deriving Inhabited

/-- A value of a document with its kind. -/
structure Node where
  /-- The kind. -/
  tag : Tag
  /-- What it holds. -/
  content : Content
  /-- The entries that a mapping has taken over from other mappings. -/
  merged : Option (List (NodeId × NodeId))
deriving Inhabited

/-- The nodes of a document, each at the place of its number. -/
abbrev Graph := Array Node

namespace Graph

/-- The node with a number. -/
def node (g : Graph) (id : NodeId) : Node := (g[id]?).getD ⟨.unknown, .scalar [], none⟩

/-- The kind of the node with a number. -/
def tag (g : Graph) (id : NodeId) : Tag := (g.node id).tag

/-- The entries of the node with a number, if it is a mapping. -/
def entries? (g : Graph) (id : NodeId) : Option (List (NodeId × NodeId)) :=
  match (g.node id).content with
  | .mapping entries => some entries
  | _ => none

/-- Replaces the node with a number. -/
def put (g : Graph) (id : NodeId) (n : Node) : Graph := g.setIfInBounds id n

end Graph

end Yaml

end StyleImport
