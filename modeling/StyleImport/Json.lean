import StyleImport.Value

/-!
# JSON documents

The documents that JSON text holds, and the value that each of them is. An object keeps its
fields in the order in which their names were first written.

## Main definitions

- `Json`: a document.
- `Json.putField`: writing a field of an object.
- `Json.toValue`: the value that a document is.
-/

namespace StyleImport

/-- A JSON document. -/
inductive Json
  /-- The word `null`. -/
  | null
  /-- One of the words `true` and `false`. -/
  | bool (b : Bool)
  /-- A number without fraction and exponent. -/
  | int (n : Int)
  /-- Any other number. -/
  | double (x : Double)
  /-- A string. -/
  | text (t : Text)
  /-- An array. -/
  | array (items : List Json)
  /-- An object. -/
  | object (fields : List (Text × Json))
deriving Inhabited

namespace Json

/-- Gives a field of an object its value. A field that is there keeps its place; a new one comes
last. -/
def putField (name : Text) (value : Json) : List (Text × Json) → List (Text × Json)
  | [] => [(name, value)]
  | (n, v) :: rest => if n = name then (n, value) :: rest else (n, v) :: putField name value rest

/-- The value of a field of an object. -/
def field? (name : Text) (fields : List (Text × Json)) : Option Json :=
  (fields.find? (·.1 = name)).map (·.2)

mutual

/-- The value that a document is. -/
def toValue : Json → Value
  | null => .null
  | bool b => .bool b
  | int n => .int n
  | double x => .double x
  | text t => .text t
  | array items => .list (toValues items)
  | object fields => .map (toEntries fields)

/-- The values that the items of an array are. -/
def toValues : List Json → List Value
  | [] => []
  | v :: vs => toValue v :: toValues vs

/-- The entries that the fields of an object are. -/
def toEntries : List (Text × Json) → List (Value × Value)
  | [] => []
  | (name, v) :: rest => (.text name, toValue v) :: toEntries rest

end

end Json

end StyleImport
