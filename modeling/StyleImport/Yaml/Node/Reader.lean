import StyleImport.Yaml.Node
import StyleImport.Yaml.Token.Lexer

/-!
# From tokens to nodes

The grammar of documents over tokens. A value may have a name and a kind in front of it. Where a
value is missing, nothing stands there. A name stands for the last value that was given it before;
a list or mapping has its name already while its parts are read.

## Main definitions

- `Yaml.Reader`: reading functions over tokens.
- `Yaml.readNode`: one value.
- `Yaml.readDocument`: the only document of a text.
- `Yaml.compose`: the graph of a text.
-/

namespace StyleImport

namespace Yaml

/-- The tokens that are left, and what is known from those before them. -/
structure Progress where
  /-- The tokens that are left. -/
  tokens : List Token
  /-- What is wrong behind the last token. -/
  fault : Fault
  /-- The nodes so far. -/
  graph : Graph
  /-- The nodes that have names. -/
  anchors : List (List Char × NodeId)
  /-- What the handles stand for. -/
  handles : List (List Char × List Char)
  /-- The version of the format. -/
  schema : Schema

/-- A reading function over tokens. -/
abbrev Reader := StateT Progress (Except Fault)

namespace Reader

/-- The next token, which stays there. -/
def peek : Reader Token := do
  let s ← get
  match s.tokens with
  | [] => throw s.fault
  | t :: _ => return t

/-- Goes on behind the next token. -/
def skip : Reader Unit := modify fun s => { s with tokens := s.tokens.drop 1 }

/-- Goes on behind the next token if it is the given one. -/
def accept (t : Token) : Reader Bool := do
  if (← peek) = t then
    skip
    return true
  return false

/-- Goes on behind the next token, which must be the given one. -/
def expect (t : Token) : Reader Unit := do
  if !(← accept t) then throw .malformed

/-- The full name of a written kind. -/
def fullName (t : WrittenTag) : Reader (List Char) := do
  let start ← match t.handle with
    | none => pure []
    | some handle =>
      match (← get).handles.find? (·.1 = handle) with
      | some (_, start) => pure start
      | none => throw .malformed
  match Property.unescape t.suffix with
  | .ok rest => return start ++ rest
  | .error fault => throw fault

/-- Adds a node, and gives it a name if there is one. -/
def add (name : Option (List Char)) (n : Node) : Reader NodeId := do
  let s ← get
  let id := s.graph.size
  let anchors := match name with
    | none => s.anchors
    | some name => (name, id) :: s.anchors.filter (·.1 ≠ name)
  set { s with graph := s.graph.push n, anchors := anchors }
  return id

/-- Replaces what a node holds. -/
def fill (id : NodeId) (content : Content) : Reader Unit :=
  modify fun s => { s with graph := s.graph.put id { s.graph.node id with content := content } }

/-- The node that a name stands for. -/
def anchored (name : List Char) : Reader NodeId := do
  match (← get).anchors.find? (·.1 = name) with
  | some (_, id) => return id
  | none => throw .malformed

/-- The kind that a scalar without a tag looks like. -/
def implicitTag (t : Text) : Reader Tag := do return (← get).schema.implicitTag t

/-- The scalar that stands where nothing is written. -/
def absent : Reader NodeId := do add none ⟨← implicitTag [], .scalar [], none⟩

end Reader

/-- What stands before a value. -/
structure Properties where
  /-- The name of the value. -/
  anchor : Option (List Char)
  /-- The full name of its kind. -/
  tag : Option (List Char)

namespace Properties

/-- Reads a name, if one is there. -/
def anchor? : Reader (Option (List Char)) := do
  match ← Reader.peek with
  | .anchor name => Reader.skip; return some name
  | _ => return none

/-- Reads a kind, if one is there. -/
def tag? : Reader (Option WrittenTag) := do
  match ← Reader.peek with
  | .tag t => Reader.skip; return some t
  | _ => return none

/-- Reads what stands before a value: a name and a kind, in either order. -/
def read : Reader Properties := do
  let (anchor, tag) ← do
    match ← anchor? with
    | some name => pure (some name, ← tag?)
    | none =>
      match ← tag? with
      | none => pure (none, none)
      | some t => pure (← anchor?, some t)
  match tag with
  | none => return ⟨anchor, none⟩
  | some t => return ⟨anchor, some (← Reader.fullName t)⟩

/-- The mark of a kind that is left open. -/
def openTag : List Char := ['!']

/-- The kind of a list or mapping. -/
def collectionTag (p : Properties) (usual : Tag) : Tag :=
  match p.tag with
  | none => usual
  | some name => if name = openTag then usual else .ofName name

/-- The kind of a scalar. -/
def scalarTag (p : Properties) (t : Text) (plain : Bool) : Reader Tag :=
  match p.tag with
  | none => if plain then Reader.implicitTag t else return .str
  | some name => if name = openTag then Reader.implicitTag t else return .ofName name

end Properties

/-- Where a value stands. -/
inductive Position
  /-- Inside brackets or braces. -/
  | flow
  /-- In a block. -/
  | block
  /-- In a mapping, where a list need not be indented. -/
  | mapping
deriving DecidableEq

/-- The tokens at which the value of an item of an indented list is missing. -/
def Token.endsEntry (indented : Bool) : Token → Bool
  | blockEntry => true
  | blockEnd => true
  | key => !indented
  | value => !indented
  | _ => false

/-- The tokens at which a key or value of an indented mapping is missing. -/
def Token.endsPair : Token → Bool
  | key => true
  | value => true
  | blockEnd => true
  | _ => false

/-- The tokens at which a key or value inside brackets or braces is missing. -/
def Token.endsFlow (t close : Token) : Bool := t = .flowEntry || t = close

mutual

/-- Reads a value. The fuel bounds the number of calls inside each other. -/
def readNode : Nat → Position → Reader NodeId
  | 0, _ => throw .malformed
  | fuel + 1, position => do
    match ← Reader.peek with
    | .alias name => Reader.skip; Reader.anchored name
    | _ =>
      let p ← Properties.read
      let t ← Reader.peek
      let list (items : Reader (List NodeId)) : Reader NodeId := do
        let id ← Reader.add p.anchor ⟨p.collectionTag .seq, .sequence [], none⟩
        Reader.fill id (.sequence (← items))
        return id
      let mapping (entries : Reader (List (NodeId × NodeId))) : Reader NodeId := do
        let id ← Reader.add p.anchor ⟨p.collectionTag .map, .mapping [], none⟩
        Reader.fill id (.mapping (← entries))
        return id
      match t, position with
      | .blockEntry, .mapping => list (readEntries fuel false)
      | .scalar text plain, _ =>
        Reader.skip
        Reader.add p.anchor ⟨← p.scalarTag text plain, .scalar text, none⟩
      | .flowSequenceStart, _ => Reader.skip; list (readFlowItems fuel true)
      | .flowMappingStart, _ => Reader.skip; mapping (readFlowPairs fuel true)
      | t, position =>
        if t = .blockSequenceStart ∧ position ≠ .flow then
          Reader.skip
          list (readEntries fuel true)
        else if t = .blockMappingStart ∧ position ≠ .flow then
          Reader.skip
          mapping (readPairs fuel)
        else if p.anchor.isSome ∨ p.tag.isSome then
          Reader.add p.anchor ⟨← p.scalarTag [] true, .scalar [], none⟩
        else throw .malformed

/-- Reads the items of a list of lines. One that is indented more than its parent has an end of
its own. -/
def readEntries : Nat → Bool → Reader (List NodeId)
  | 0, _ => throw .malformed
  | fuel + 1, indented => do
    if ← Reader.accept .blockEntry then
      let n ← if (← Reader.peek).endsEntry indented then Reader.absent else readNode fuel .block
      return n :: (← readEntries fuel indented)
    if indented then Reader.expect .blockEnd
    return []

/-- Reads a key or a value of an indented mapping, which may be missing. -/
def readPart : Nat → Reader NodeId
  | 0 => throw .malformed
  | fuel + 1 => do
    if (← Reader.peek).endsPair then Reader.absent else readNode fuel .mapping

/-- Reads the entries of an indented mapping. -/
def readPairs : Nat → Reader (List (NodeId × NodeId))
  | 0 => throw .malformed
  | fuel + 1 => do
    if ← Reader.accept .key then
      let k ← readPart fuel
      let v ← if ← Reader.accept .value then readPart fuel else Reader.absent
      return (k, v) :: (← readPairs fuel)
    if (← get).schema ≠ .older ∧ (← Reader.peek) = .value then
      Reader.skip
      let k ← Reader.absent
      let v ← readPart fuel
      return (k, v) :: (← readPairs fuel)
    Reader.expect .blockEnd
    return []

/-- Reads a key or a value inside brackets or braces, which may be missing. -/
def readFlowPart : Nat → Token → Reader NodeId
  | 0, _ => throw .malformed
  | fuel + 1, close => do
    if (← Reader.peek).endsFlow close then Reader.absent else readNode fuel .flow

/-- Reads the value behind a key inside brackets or braces, which may be missing. -/
def readFlowValue : Nat → Token → Reader NodeId
  | 0, _ => throw .malformed
  | fuel + 1, close => do
    if ← Reader.accept .value then readFlowPart fuel close else Reader.absent

/-- Reads the items of a list in brackets. An item with a key is a mapping with one entry. -/
def readFlowItems : Nat → Bool → Reader (List NodeId)
  | 0, _ => throw .malformed
  | fuel + 1, first => do
    if ← Reader.accept .flowSequenceEnd then return []
    if !first then Reader.expect .flowEntry
    if ← Reader.accept .key then
      let k ←
        if (← Reader.peek) = .value then Reader.absent else readFlowPart fuel .flowSequenceEnd
      let v ← readFlowValue fuel .flowSequenceEnd
      let id ← Reader.add none ⟨.map, .mapping [(k, v)], none⟩
      return id :: (← readFlowItems fuel false)
    if ← Reader.accept .flowSequenceEnd then return []
    let n ← readNode fuel .flow
    return n :: (← readFlowItems fuel false)

/-- Reads the entries of a mapping in braces. An item without a key mark is a key without a
value. -/
def readFlowPairs : Nat → Bool → Reader (List (NodeId × NodeId))
  | 0, _ => throw .malformed
  | fuel + 1, first => do
    if ← Reader.accept .flowMappingEnd then return []
    if !first then Reader.expect .flowEntry
    if ← Reader.accept .key then
      let k ←
        if (← Reader.peek) = .value then Reader.absent else readFlowPart fuel .flowMappingEnd
      let v ← readFlowValue fuel .flowMappingEnd
      return (k, v) :: (← readFlowPairs fuel false)
    if (← get).schema ≠ .older ∧ (← Reader.peek) = .value then
      let k ← Reader.absent
      let v ← readFlowValue fuel .flowMappingEnd
      return (k, v) :: (← readFlowPairs fuel false)
    if ← Reader.accept .flowMappingEnd then return []
    let k ← readNode fuel .flow
    let v ← Reader.absent
    return (k, v) :: (← readFlowPairs fuel false)

end

/-- The version that a directive asks for. -/
def Schema.ofMinor (minor : Nat) : Except Fault Schema :=
  match minor with
  | 1 => .ok older
  | 2 => .ok current
  | minor => .error (.version 1 minor)

/-- The handles that every document knows. -/
def usualHandles : List (List Char × List Char) :=
  [(['!'], ['!']), (['!', '!'], Tag.nameStart)]

/-- Reads the directives of a document. Each handle, and the version, may be given once. -/
def readDirectives : Nat → Option Nat → List (List Char × List Char) → Reader Unit
  | 0, _, _ => throw .malformed
  | fuel + 1, minor, handles => do
    match ← Reader.peek with
    | .directive d =>
      Reader.skip
      match d with
      | .version major other =>
        if minor.isSome ∨ major ≠ 1 then throw .malformed
        readDirectives fuel (some other) handles
      | .tag handle start =>
        if handles.any (·.1 = handle) then throw .malformed
        readDirectives fuel minor ((handle, start) :: handles)
      | .other => readDirectives fuel minor handles
    | _ =>
      let schema ← match minor.map Schema.ofMinor with
        | none => pure (← get).schema
        | some (.ok schema) => pure schema
        | some (.error fault) => throw fault
      modify fun s => { s with handles := handles ++ usualHandles, schema := schema }

/-- The tokens at which the content of a document is missing. -/
def Token.endsDocument : Token → Bool
  | directive _ => true
  | documentStart => true
  | documentEnd => true
  | streamEnd => true
  | _ => false

/-- Skips the markers at the end of a document: one, or any number in the older version. -/
def skipEnds : Nat → Reader Unit
  | 0 => return
  | fuel + 1 => do
    if (← Reader.accept .documentEnd) && (← get).schema = .older then skipEnds fuel

/-- Tells whether a document starts with directives or a marker here. -/
def startsExplicitly : Reader Bool := do
  match ← Reader.peek with
  | .directive _ => return true
  | t => return t = .documentStart

/-- Reads the only document of a text. If there is another one, its directives are still read. -/
def readDocument (fuel : Nat) : Reader NodeId := do
  if (← Reader.peek) = .streamEnd then Reader.add none ⟨.null, .scalar [], none⟩
  else
    let explicit ← startsExplicitly
    if explicit then
      readDirectives fuel none []
      Reader.expect .documentStart
    let id ←
      if explicit && (← Reader.peek).endsDocument then Reader.absent
      else readNode fuel .block
    skipEnds fuel
    if ← startsExplicitly then readDirectives fuel none []
    Reader.expect .streamEnd
    return id

/-- The graph of a text, the number of its outermost node, and the version whose rules hold. -/
def compose (cs : List Char) : Except Fault (Graph × NodeId × Schema) :=
  if !cs.all isAllowed then .error .malformed
  else
    let (ts, fault) := tokens cs
    let start : Progress := ⟨ts, fault.getD .malformed, #[], [], usualHandles, .current⟩
    ((readDocument (4 * ts.length + 8)).run start).map fun r => (r.2.graph, r.1, r.2.schema)

end Yaml

end StyleImport
