import StyleImport.Value.Display
import StyleImport.Value.SetOrder
import StyleImport.Yaml.Fault
import StyleImport.Yaml.Node

/-!
# Items and boxes

The values of a document while it is worked out. Lists, mappings and sets lie in boxes, so that a
part of the document that is used several times is one thing, and can hold itself. A list that is a
key becomes a tuple of what lies in its box at that time.

## Main definitions

- `Yaml.Item`, `Yaml.Box`: values while the document is worked out.
- `Yaml.Item.sameKey`, `Yaml.Item.unfitKind?`: which items are the same key, and which are none.
- `Yaml.Item.toValue`: the value that an item becomes.
-/

namespace StyleImport

namespace Yaml

/-- The number of a box. -/
abbrev BoxId := Nat

/-- A value while the document is worked out. -/
inductive Item
  /-- A value that is no collection and not the number that is none. -/
  | value (v : Value)
  /-- The number that is none, and the node that it belongs to; all those that are written by its
  name are one. -/
  | nan (owner : Option NodeId)
  /-- A list that cannot change. -/
  | tuple (items : List Item)
  /-- What lies in a box. -/
  | box (id : BoxId)
deriving Inhabited

/-- A collection while the document is worked out. -/
inductive Box
  /-- A list. -/
  | list (items : List Item)
  /-- A mapping. -/
  | map (entries : List (Item × Item))
  /-- A mapping that is written as a list of single entries. -/
  | orderedMap (entries : List (Item × Item))
  /-- A set. -/
  | set (items : List Item)
deriving Inhabited

namespace Box

/-- The empty box for a kind of collections. -/
def ofTag? : Tag → Option Box
  | .seq => some (list [])
  | .pairs => some (list [])
  | .map => some (map [])
  | .orderedMap => some (orderedMap [])
  | .set => some (set [])
  | _ => none

/-- The kind of a box as messages name it. -/
def kindName : Box → String
  | list _ => "list"
  | map _ => "dict"
  | orderedMap _ => "ordereddict"
  | set _ => "set"

end Box

namespace Item

mutual

/-- Tells whether two items are the same key. -/
def sameKey : Item → Item → Bool
  | value v, value w => v.sameKey w
  | nan s, nan t => s = t
  | tuple xs, tuple ys => sameKeys xs ys
  | box s, box t => s = t
  | _, _ => false

/-- Tells whether two lists hold the same keys in the same order. -/
def sameKeys : List Item → List Item → Bool
  | [], [] => true
  | x :: xs, y :: ys => sameKey x y && sameKeys xs ys
  | _, _ => false

end

mutual

/-- The kind that keeps an item from being a key. -/
def unfitKind? (boxes : Array Box) : Item → Option String
  | box id => (boxes[id]?).map Box.kindName
  | tuple items => unfitKinds? boxes items
  | _ => none

/-- The kind of the first of several items that cannot be a key. -/
def unfitKinds? (boxes : Array Box) : List Item → Option String
  | [] => none
  | i :: is => (unfitKind? boxes i).or (unfitKinds? boxes is)

end

/-- The value under a key. -/
def get? (key : Item) (entries : List (Item × Item)) : Option Item :=
  (entries.find? fun e => sameKey e.1 key).map (·.2)

/-- Puts a value under a key. An entry with this key keeps its place and its spelling of the key;
a new entry comes last. -/
def put (key item : Item) : List (Item × Item) → List (Item × Item)
  | [] => [(key, item)]
  | (k, v) :: rest => if sameKey k key then (k, item) :: rest else (k, v) :: put key item rest

/-- Puts entries one after the other. -/
def putAll (new entries : List (Item × Item)) : List (Item × Item) :=
  new.foldl (fun es e => put e.1 e.2 es) entries

/-- The value that an item becomes inside the boxes in `around`. A box that lies in itself becomes
a mark. The fuel bounds the depth. -/
def toValueIn (boxes : Array Box) : Nat → List BoxId → Item → Value
  | 0, _, _ => .circle
  | _ + 1, _, value v => v
  | _ + 1, _, nan _ => .double .nan
  | fuel + 1, around, tuple items => .tuple (items.map (toValueIn boxes fuel around))
  | fuel + 1, around, box id =>
    if around.contains id then .circle
    else
      let inside := toValueIn boxes fuel (id :: around)
      match boxes[id]? with
      | some (.list items) => .list (items.map inside)
      | some (.map entries) => .map (entries.map fun e => (inside e.1, inside e.2))
      | some (.orderedMap entries) => .map (entries.map fun e => (inside e.1, inside e.2))
      | some (.set items) => .set (Value.setOrder (items.map inside))
      | none => .circle

/-- The value that an item becomes. Tuples are no deeper than the boxes that they were made from. -/
def toValue (boxes : Array Box) (i : Item) : Value :=
  toValueIn boxes (4 * boxes.size + 4) [] i

end Item

end Yaml

end StyleImport
