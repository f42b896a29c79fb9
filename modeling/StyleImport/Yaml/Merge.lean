import StyleImport.Yaml.Fault
import StyleImport.Yaml.Node

/-!
# Merge keys

A mapping takes over the entries of the mappings under its merge key: of one mapping, or of all
mappings of a list, the last one first. They are put before its own entries. These mappings take
over entries of others before. A value key becomes a text on the way.

Each step takes one merge key out of the graph before it looks at another mapping, so that even a
mapping that merges itself comes to an end.

## Main definitions

- `Yaml.Graph.flatten`: a mapping takes over entries.
-/

namespace StyleImport

namespace Yaml

/-- An entry of a mapping by the numbers of its key and its value. -/
abbrev Pair := NodeId × NodeId

/-- A computation that changes a graph. -/
abbrev Merging := StateT Graph (Except Fault)

namespace Merging

/-- The entries of a node, which must be a mapping. -/
def entries (id : NodeId) : Merging (List Pair) := do
  match (← get).entries? id with
  | some es => return es
  | none => throw .malformed

/-- Replaces the entries of a mapping. -/
def setEntries (id : NodeId) (es : List Pair) : Merging Unit :=
  modify fun g => g.put id { g.node id with content := .mapping es }

/-- Tells whether a key takes over entries. -/
def isMerge (g : Graph) (e : Pair) : Bool := g.tag e.1 = .merge

/-- Makes a value key a text. -/
def settleKey (e : Pair) : Merging Unit :=
  modify fun g =>
    if g.tag e.1 = .value then g.put e.1 { g.node e.1 with tag := .str } else g

mutual

/-- The entries that a mapping takes over, behind those in `taken`, from its merge keys behind the
first `passed` entries. Only one merge key may have entries to take over. The fuel bounds the number
of calls inside each other. -/
def gather : Nat → NodeId → Nat → List Pair → Merging (List Pair)
  | 0, _, _, _ => throw .circular
  | fuel + 1, id, passed, taken => do
    let es ← entries id
    let g ← get
    let plain := (es.drop passed).takeWhile fun e => !isMerge g e
    plain.forM settleKey
    let passed := passed + plain.length
    match es[passed]? with
    | none => return taken
    | some (_, source) =>
      if !taken.isEmpty then throw .malformed
      setEntries id (es.eraseIdx passed)
      let more ← sources fuel source
      gather fuel id passed (taken ++ more)

/-- The entries that are taken over from a node under a merge key. -/
def sources : Nat → NodeId → Merging (List Pair)
  | 0, _ => throw .circular
  | fuel + 1, source => do
    match ((← get).node source).content with
    | .mapping _ =>
      settle fuel source
      entries source
    | .sequence items =>
      let lists ← items.mapM fun item => do
        let _ ← entries item
        settle fuel item
        entries item
      return lists.reverse.flatten
    | .scalar _ => throw .malformed

/-- A mapping takes over the entries of other mappings. -/
def settle : Nat → NodeId → Merging Unit
  | 0, _ => throw .circular
  | fuel + 1, id => do
    let taken ← gather fuel id 0 []
    if !taken.isEmpty then
      let own ← entries id
      modify fun g => g.put id ⟨g.tag id, .mapping (taken ++ own), some taken⟩

end

end Merging

namespace Graph

/-- The number of entries of all mappings. -/
def entryCount (g : Graph) : Nat :=
  g.foldl (fun n node => match node.content with
    | .mapping es => n + es.length
    | _ => n) 0

/-- A mapping takes over the entries of the mappings under its merge key. -/
def flatten (g : Graph) (id : NodeId) : Except Fault Graph :=
  ((Merging.settle (3 * g.entryCount + 3) id).run g).map (·.2)

end Graph

end Yaml

end StyleImport
