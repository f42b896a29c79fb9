import StyleImport.Moment
import StyleImport.Number.Double

/-!
# Values

The trees of values that manifests and configuration files hold. A mapping keeps its entries in
the order in which their keys were first put, and every value that cannot change may be a key. A
collection that holds itself is cut off at that place.

## Main definitions

- `Value`: a value of any kind.
- `Value.sameKey`: when two keys of a mapping are the same one.
- `Value.unfitKind?`: which values cannot be keys.
- `Value.put`, `Value.get?`: writing and reading an entry of a mapping.
-/

namespace StyleImport

/-- A value of a manifest or configuration file. -/
inductive Value
  /-- The absent value. -/
  | null
  /-- A truth value. -/
  | bool (b : Bool)
  /-- An integer. -/
  | int (n : Int)
  /-- A floating-point number. -/
  | double (x : Double)
  /-- A text. -/
  | text (t : Text)
  /-- A date or time. -/
  | moment (m : Moment)
  /-- A string of bytes. -/
  | bytes (bs : List UInt8)
  /-- A list. -/
  | list (items : List Value)
  /-- A list that cannot change, and so may be a key. -/
  | tuple (items : List Value)
  /-- A set of values. -/
  | set (items : List Value)
  /-- A mapping from keys to values. -/
  | map (entries : List (Value × Value))
  /-- A collection around the place where this stands. -/
  | circle
deriving Inhabited

namespace Value

/-- The kind of a value as messages name it. -/
def kindName : Value → String
  | null => "NoneType"
  | bool _ => "bool"
  | int _ => "int"
  | double _ => "float"
  | text _ => "str"
  | moment (.date _) => "date"
  | moment (.time _) => "time"
  | moment (.dateTime ..) => "datetime"
  | bytes _ => "bytes"
  | list _ => "list"
  | tuple _ => "tuple"
  | set _ => "set"
  | map _ => "dict"
  | circle => "list"

/-- The integer that a value counts as among the keys of a mapping. -/
def asInt? : Value → Option Int
  | bool b => some b.toNat
  | int n => some n
  | double x => x.toInt?
  | _ => none

mutual

/-- Tells whether two values are the same key: numbers and truth values are compared as numbers,
all else by kind and content. -/
def sameKey : Value → Value → Bool
  | null, null => true
  | text s, text t => s = t
  | moment s, moment t => s.same t
  | bytes s, bytes t => s = t
  | tuple xs, tuple ys => sameKeys xs ys
  | double x, double y => x = y || x.numericallyEqual y
  | a, b => match a.asInt?, b.asInt? with
    | some m, some n => m = n
    | _, _ => false

/-- Tells whether two lists hold the same keys in the same order. -/
def sameKeys : List Value → List Value → Bool
  | [], [] => true
  | x :: xs, y :: ys => sameKey x y && sameKeys xs ys
  | _, _ => false

end

mutual

/-- The kind that keeps a value from being a key: its own, or that of the first such item of a
tuple. -/
def unfitKind? : Value → Option String
  | list _ => some "list"
  | set _ => some "set"
  | map _ => some "dict"
  | tuple items => unfitKinds? items
  | _ => none

/-- The kind of the first of several values that cannot be a key. -/
def unfitKinds? : List Value → Option String
  | [] => none
  | v :: vs => (unfitKind? v).or (unfitKinds? vs)

end

/-- The value under a key. -/
def get? (key : Value) (entries : List (Value × Value)) : Option Value :=
  (entries.find? fun e => sameKey e.1 key).map (·.2)

/-- Puts a value under a key. An entry with this key keeps its place and its spelling of the key;
a new entry comes last. -/
def put (key value : Value) : List (Value × Value) → List (Value × Value)
  | [] => [(key, value)]
  | (k, v) :: rest => if sameKey k key then (k, value) :: rest else (k, v) :: put key value rest

/-- Puts entries one after the other. -/
def putAll (new entries : List (Value × Value)) : List (Value × Value) :=
  new.foldl (fun es e => put e.1 e.2 es) entries

/-- The entries of a mapping. -/
def entries? : Value → Option (List (Value × Value))
  | map es => some es
  | _ => none

/-- The content of a text. -/
def text? : Value → Option Text
  | text t => some t
  | _ => none

end Value

end StyleImport
