import StyleImport.Value

/-!
# Tables under construction

The tables of a TOML document while it is read. A dotted name leads from the outermost table to an
inner one; where it meets a list of tables, the last of them is meant. Seals on names forbid to
open a table a second time, or to change anything in a value that was written as a whole.

## Main definitions

- `Toml.Name`: a dotted name.
- `Toml.descend`: changing the table that a name leads to, and making the tables on the way.
- `Toml.appendTable`: a new table at the end of a list of tables.
- `Toml.Seals`: what may no longer be done with which names.
-/

namespace StyleImport

namespace Toml

/-- A dotted name. -/
abbrev Name := List Text

/-- The entries of a table. -/
abbrev Entries := List (Value × Value)

/-- Changes the last item of a list. -/
def changeLast (change : Value → Option Value) : List Value → Option (List Value)
  | [] => none
  | [v] => (change v).map ([·])
  | v :: vs => (changeLast change vs).map (v :: ·)

/-- Changes the table that a name leads to. Missing tables are made. There is no result where the
name leads through something that is no table; lists of tables are entered only if `intoLists`. -/
def descend (intoLists : Bool) (change : Entries → Option Entries) :
    Name → Entries → Option Entries
  | [], es => change es
  | part :: rest, es =>
    let enter : Value → Option Value
      | .map inner => (descend intoLists change rest inner).map .map
      | _ => none
    let new := match Value.get? (.text part) es with
      | none => enter (.map [])
      | some (.list items) => if intoLists then (changeLast enter items).map .list else none
      | some v => enter v
    new.map fun v => Value.put (.text part) v es

/-- Puts a value under a name that stands in no table yet. -/
def putNew (part : Text) (v : Value) (es : Entries) : Option Entries :=
  match Value.get? (.text part) es with
  | none => some (Value.put (.text part) v es)
  | some _ => none

/-- Adds an empty table to the list of tables under a name. -/
def appendTable (part : Text) (es : Entries) : Option Entries :=
  match Value.get? (.text part) es with
  | none => some (Value.put (.text part) (.list [.map []]) es)
  | some (.list items) => some (Value.put (.text part) (.list (items ++ [.map []])) es)
  | some _ => none

/-- What may no longer be done with a name. -/
inductive Seal
  /-- The table may not be opened again. -/
  | opened
  /-- Nothing may be changed in the value, however deep. -/
  | frozen
deriving DecidableEq

/-- The seals on names. -/
structure Seals where
  /-- The seals that are set. -/
  set : List (Name × Seal)
  /-- Names that will count as opened from the next table on. -/
  pending : List Name

namespace Seals

/-- No seals. -/
def none : Seals := ⟨[], []⟩

/-- Tells whether a table may not be opened again. -/
def isOpened (s : Seals) (n : Name) : Bool := s.set.any fun e => e.1 = n && e.2 = .opened

/-- Tells whether nothing may be changed under a name. -/
def isFrozen (s : Seals) (n : Name) : Bool :=
  s.set.any fun e => e.2 = .frozen && e.1.isPrefixOf n

/-- Sets a seal. -/
def add (s : Seals) (n : Name) (mark : Seal) : Seals := { s with set := (n, mark) :: s.set }

/-- Notes a name that will count as opened from the next table on. -/
def delay (s : Seals) (n : Name) : Seals := { s with pending := n :: s.pending }

/-- Lets the noted names count as opened. -/
def settle (s : Seals) : Seals :=
  ⟨s.pending.map (fun n => (n, Seal.opened)) ++ s.set, []⟩

/-- Takes all seals off a name and the names below it. -/
def clear (s : Seals) (n : Name) : Seals :=
  { s with set := s.set.filter fun e => !n.isPrefixOf e.1 }

end Seals

end Toml

end StyleImport
