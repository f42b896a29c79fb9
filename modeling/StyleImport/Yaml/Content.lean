import StyleImport.Yaml.Item
import StyleImport.Yaml.Merge
import StyleImport.Yaml.Node.Reader
import StyleImport.Yaml.Scalar.Value

/-!
# From nodes to values

Each node becomes a value of its kind. In a mapping without a merge key no key may stand twice, and
a list that is a key becomes a tuple.

A document may have several faults, and the one that is found first is reported. The parts of a
collection are worked out after the collection has been met, in the order in which collections are
met. A key is worked out at once with all that it holds. What is still being worked out when it is
met again inside itself counts as nothing there.

## Main definitions

- `Yaml.Builder`: what has been worked out.
- `Yaml.Build.construct`: the item of a node.
- `Yaml.read`: the value of a text.
-/

namespace StyleImport

namespace Yaml

/-- A collection whose parts are still to be worked out. -/
structure Job where
  /-- The kind of the collection. -/
  tag : Tag
  /-- Its node. -/
  node : NodeId
  /-- Its box. -/
  box : BoxId

/-- What has been worked out. -/
structure Builder where
  /-- The nodes. -/
  graph : Graph
  /-- Tells whether the rules of the older version hold. -/
  older : Bool
  /-- The collections. -/
  boxes : Array Box
  /-- The items of the nodes that are done. -/
  items : Array (Option Item)
  /-- The nodes that are being worked out, the innermost one first. -/
  underway : List NodeId
  /-- Tells whether the parts of collections are worked out at once. -/
  atOnce : Bool
  /-- The collections that have been met. -/
  jobs : Array Job
  /-- The number of them whose parts have been worked out. -/
  jobsDone : Nat

/-- A computation that works out parts of a document. -/
abbrev Build := StateT Builder (Except Fault)

namespace Build

/-- Reports a fault if there is one. -/
def ofExcept {α : Type} (r : Except Fault α) : Build α :=
  match r with
  | .ok a => return a
  | .error fault => throw fault

/-- Adds a box. -/
def addBox (b : Box) : Build BoxId := do
  let s ← get
  set { s with boxes := s.boxes.push b }
  return s.boxes.size

/-- Replaces what lies in a box. -/
def setBox (id : BoxId) (b : Box) : Build Unit :=
  modify fun s => { s with boxes := s.boxes.setIfInBounds id b }

/-- Keeps a collection whose parts are to be worked out. -/
def keep (job : Job) : Build Unit := modify fun s => { s with jobs := s.jobs.push job }

/-- The text of a scalar, or of the scalar that stands for a whole mapping under its value key. -/
def scalarText : Nat → NodeId → Build Text
  | 0, _ => throw .circular
  | fuel + 1, id => do
    let g := (← get).graph
    match (g.node id).content with
    | .scalar t => return t
    | .mapping entries =>
      match entries.find? fun e => g.tag e.1 = .value with
      | some (_, v) => scalarText fuel v
      | none => throw .malformed
    | .sequence _ => throw .malformed

/-- Tells whether the values of a kind are given by a text, for which another one may stand. -/
def hasText : Tag → Bool
  | .null => true
  | .bool => true
  | .int => true
  | .double => true
  | .binary => true
  | .str => true
  | _ => false

/-- The item of a node that is no collection of its kind. -/
def single (id : NodeId) : Build Item := do
  let s ← get
  let n := s.graph.node id
  let text ← match n.tag, n.content with
    | .timestamp, .scalar t => pure t
    | tag, _ => if hasText tag then scalarText (s.graph.size + 1) id else throw .malformed
  match ← ofExcept (Scalar.value s.older n.tag text) with
  | .double .nan => return .nan (if Scalar.namesNan text then none else some id)
  | v => return .value v

/-- A key that an item becomes. -/
def asKey (i : Item) : Build Item := do
  match i with
  | .box id =>
    match ((← get).boxes)[id]? with
    | some (.list items) => return .tuple items
    | _ => throw .malformed
  | i => return i

/-- Checks that an item can be a key. -/
def checkKey (i : Item) : Build Unit := do
  match i.unfitKind? (← get).boxes with
  | some kind => throw (.unfitKey kind)
  | none => return

/-- Reports a key that stands twice in a mapping, with its two values. -/
def repeated (key old new : Item) : Build Unit := do
  let boxes := (← get).boxes
  if [key, new, old].all fun i => (i.toValue boxes).isWritable then throw .malformed
  throw .unwritable

/-- Adds an entry to a mapping, in which its key may stand already unless keys are unique. -/
def addEntry (unique : Bool) (done : List (Item × Item)) (key v : Item) :
    Build (List (Item × Item)) := do
  checkKey key
  match Item.get? key done with
  | some old => if unique then repeated key old v
  | none => pure ()
  return Item.put key v done

/-- A mapping takes over the entries of the mappings under its merge key. -/
def flatten (id : NodeId) : Build Unit := do
  let s ← get
  let g ← ofExcept (s.graph.flatten id)
  set { s with graph := g }

/-- The only entry of a node. -/
def onlyEntry (id : NodeId) : Build Pair := do
  match (← get).graph.entries? id with
  | some [e] => return e
  | _ => throw .malformed

mutual

/-- The item of a node. With `whole` set, all that it holds is worked out at once. The fuel bounds
the number of calls inside each other. -/
def construct : Nat → Bool → NodeId → Build Item
  | 0, _, _ => throw .circular
  | fuel + 1, whole, id => do
    let s ← get
    match (s.items[id]?).join with
    | some item => return item
    | none =>
      if whole then modify fun s => { s with atOnce := true }
      if s.underway.contains id then return .value .null
      modify fun s => { s with underway := id :: s.underway }
      let item ← open_ fuel id
      modify fun after => { after with
        items := after.items.setIfInBounds id (some item)
        underway := after.underway.erase id
        atOnce := if whole then s.atOnce else after.atOnce }
      return item

/-- The item of a node that has not been met before. -/
def open_ : Nat → NodeId → Build Item
  | 0, _ => throw .circular
  | fuel + 1, id => do
    let s ← get
    let tag := s.graph.tag id
    match Box.ofTag? tag with
    | none => single id
    | some empty =>
      let box ← addBox empty
      if s.atOnce then fill fuel ⟨tag, id, box⟩ else keep ⟨tag, id, box⟩
      return .box box

/-- Works out the parts of a collection. -/
def fill : Nat → Job → Build Unit
  | 0, _ => throw .circular
  | fuel + 1, job => do
    match job.tag, ((← get).graph.node job.node).content with
    | .seq, .sequence items => setBox job.box (.list (← items.mapM (construct fuel false)))
    | .map, .mapping _ => setBox job.box (.map (← mapping fuel job.node))
    | .set, .mapping _ => setBox job.box (.set ((← mapping fuel job.node).map (·.1)))
    | .orderedMap, .sequence items => let _ ← items.foldlM (addOrdered fuel job.box) []
    | .pairs, .sequence items => let _ ← items.foldlM (addPair fuel job.box) []
    | _, _ => throw .malformed

/-- Adds the only entry of a node to an ordered mapping. -/
def addOrdered : Nat → BoxId → List (Item × Item) → NodeId → Build (List (Item × Item))
  | 0, _, _, _ => throw .circular
  | fuel + 1, box, done, id => do
    let e ← onlyEntry id
    let key ← construct fuel false e.1
    checkKey key
    if (Item.get? key done).isSome then throw .repeatedKey
    let v ← construct fuel false e.2
    let done := done ++ [(key, v)]
    setBox box (.orderedMap done)
    return done

/-- Adds the only entry of a node to a list of pairs. -/
def addPair : Nat → BoxId → List Item → NodeId → Build (List Item)
  | 0, _, _, _ => throw .circular
  | fuel + 1, box, done, id => do
    let e ← onlyEntry id
    let key ← construct fuel false e.1
    let v ← construct fuel false e.2
    let done := done ++ [.tuple [key, v]]
    setBox box (.list done)
    return done

/-- The entries of a mapping: those that it takes over, and then its own. -/
def mapping : Nat → NodeId → Build (List (Item × Item))
  | 0, _ => throw .circular
  | fuel + 1, id => do
    flatten id
    let g := (← get).graph
    let taken ← (((g.node id).merged).getD []).foldlM (addNext fuel false) []
    let own ← ((g.entries? id).getD []).foldlM (addNext fuel (g.node id).merged.isNone) []
    return Item.putAll own taken

/-- Adds an entry to those before it. -/
def addNext : Nat → Bool → List (Item × Item) → Pair → Build (List (Item × Item))
  | 0, _, _, _ => throw .circular
  | fuel + 1, unique, done, e => do
    let key ← asKey (← construct fuel true e.1)
    let v ← construct fuel false e.2
    addEntry unique done key v

end

/-- The number of calls inside each other that a graph may need. -/
def depth (g : Graph) : Nat := 6 * g.size + 6

/-- Works out the parts of the collections that have been met, up to a number of them. -/
def finish : Nat → Build Unit
  | 0 => return
  | count + 1 => do
    let s ← get
    match s.jobs[s.jobsDone]? with
    | none => return
    | some job =>
      set { s with jobsDone := s.jobsDone + 1 }
      fill (depth s.graph) job
      finish count

/-- The value of a node. -/
def value (id : NodeId) : Build Value := do
  let g := (← get).graph
  let item ← construct (depth g) false id
  finish g.size
  return item.toValue (← get).boxes

end Build

/-- The value of a text. -/
def read (cs : List Char) : Except Fault Value := do
  let (g, root, schema) ← compose cs
  let start : Builder :=
    ⟨g, schema = .older, #[], Array.replicate g.size none, [], false, #[], 0⟩
  ((Build.value root).run start).map (·.1)

end Yaml

end StyleImport
