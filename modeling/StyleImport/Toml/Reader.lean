import StyleImport.Toml.Scalar
import StyleImport.Toml.Table

/-!
# Reading TOML documents

A document is a list of lines. A line with a name between brackets opens a table, or a new table
at the end of a list of tables, for the entries in the lines behind it. Lists may go on over
several lines, tables in braces may not.

## Main definitions

- `Toml.readName`: a dotted name.
- `Toml.readValue`: a value of any kind.
- `Toml.State`: the tables so far.
- `Toml.read`: the entries of a document.
-/

namespace StyleImport

namespace Toml

/-- Tells whether a character may stand in a name without quotes. -/
def isBare (c : Char) : Bool := c.isAlphanum || c = '-' || c = '_'

/-- Reads one part of a name. -/
def readPart (cs : List Char) : Taken Text :=
  match cs with
  | [] => refuse
  | c :: _ =>
    if isBare c then .ok (Text.ofChars (cs.takeWhile isBare), cs.dropWhile isBare)
    else if c = '"' ∨ c = '\'' then (readLineString cs).map fun r => (Text.ofChars r.1, r.2)
    else refuse

/-- Reads a dotted name and the blanks behind it. -/
def readName : Nat → List Char → Taken Name
  | 0, _ => refuse
  | fuel + 1, cs =>
    match readPart cs with
    | .error fault => .error fault
    | .ok (part, rest) =>
      match skipBlanks rest with
      | '.' :: rest => (readName fuel (skipBlanks rest)).map fun r => (part :: r.1, r.2)
      | rest => .ok ([part], rest)

/-- Skips a comment, if one stands at the start. -/
def skipComment : List Char → Except Fault (List Char)
  | '#' :: rest =>
    let text := rest.takeWhile (· ≠ '\n')
    if text.any isControl then refuse else .ok (rest.drop text.length)
  | cs => .ok cs

/-- Skips blanks, comments and line ends between the items of a list. -/
def skipGap : Nat → List Char → Except Fault (List Char)
  | 0, cs => .ok cs
  | fuel + 1, cs =>
    match cs.dropWhile fun c => isBlank c || c = '\n' with
    | '#' :: rest =>
      match skipComment ('#' :: rest) with
      | .error fault => .error fault
      | .ok rest => skipGap fuel rest
    | rest => .ok rest

/-- The tables in braces that are being read. -/
structure Inline where
  /-- The entries so far. -/
  entries : Entries
  /-- The seals so far. -/
  seals : Seals

/-- Tells whether nothing may be added to a value that is written as a whole. -/
def isWhole : Value → Bool
  | .map _ => true
  | .list _ => true
  | _ => false

/-- The parts of a name before its last one, and the last one. -/
def splitName (n : Name) : Name × Text := (n.dropLast, n.getLast?.getD [])

/-- Adds an entry to a table in braces. -/
def Inline.add (t : Inline) (name : Name) (v : Value) : Option Inline :=
  if t.seals.isFrozen name then none
  else
    let (parents, part) := splitName name
    (descend false (putNew part v) parents t.entries).map fun es =>
      ⟨es, if isWhole v then t.seals.add name .frozen else t.seals⟩

mutual

/-- Reads a value. The fuel bounds the number of calls inside each other. -/
def readValue : Nat → List Char → Taken Value
  | 0, _ => refuse
  | fuel + 1, cs =>
    match cs with
    | '"' :: _ => (readString cs).map fun r => (.text (Text.ofChars r.1), r.2)
    | '\'' :: _ => (readString cs).map fun r => (.text (Text.ofChars r.1), r.2)
    | '[' :: rest =>
      match skipGap rest.length rest with
      | .error fault => .error fault
      | .ok rest => (readItems fuel rest).map fun r => (.list r.1, r.2)
    | '\x7b' :: rest =>
      match skipBlanks rest with
      | '\x7d' :: rest => .ok (.map [], rest)
      | rest => (readInline fuel ⟨[], .none⟩ rest).map fun r => (.map r.1, r.2)
    | cs => readPlain cs

/-- Reads the items of a list up to its end. -/
def readItems : Nat → List Char → Taken (List Value)
  | 0, _ => refuse
  | _ + 1, ']' :: rest => .ok ([], rest)
  | fuel + 1, cs =>
    match readValue fuel cs with
    | .error fault => .error fault
    | .ok (v, rest) =>
      match skipGap rest.length rest with
      | .error fault => .error fault
      | .ok (']' :: rest) => .ok ([v], rest)
      | .ok (',' :: rest) =>
        match skipGap rest.length rest with
        | .error fault => .error fault
        | .ok rest => (readItems fuel rest).map fun r => (v :: r.1, r.2)
      | .ok _ => refuse

/-- Reads the entries of a table in braces up to its end. -/
def readInline : Nat → Inline → List Char → Taken Entries
  | 0, _, _ => refuse
  | fuel + 1, t, cs =>
    match readEntry fuel cs with
    | .error fault => .error fault
    | .ok ((name, v), rest) =>
      match t.add name v with
      | none => refuse
      | some t =>
        match skipBlanks rest with
        | '\x7d' :: rest => .ok (t.entries, rest)
        | ',' :: rest => readInline fuel t (skipBlanks rest)
        | _ => refuse

/-- Reads a name, an equals sign and a value. -/
def readEntry : Nat → List Char → Taken (Name × Value)
  | 0, _ => refuse
  | fuel + 1, cs =>
    match readName cs.length cs with
    | .error fault => .error fault
    | .ok (name, '=' :: rest) =>
      (readValue fuel (skipBlanks rest)).map fun r => ((name, r.1), r.2)
    | .ok _ => refuse

end

/-- The tables so far. -/
structure State where
  /-- The entries of the outermost table. -/
  entries : Entries
  /-- The seals so far. -/
  seals : Seals
  /-- The name of the open table. -/
  header : Name

/-- Turns a missing result into a fault. -/
def demand {α : Type} : Option α → Except Fault α
  | some a => .ok a
  | none => refuse

/-- The names of the tables that a dotted name passes through below the open table. -/
def innerNames (header name : Name) : List Name :=
  (List.range (name.length - 1)).map fun i => header ++ name.take (i + 1)

/-- Reads a line with an entry. -/
def readEntryLine (s : State) (cs : List Char) : Except Fault (State × List Char) := do
  let ((name, v), rest) ← readEntry (2 * cs.length + 2) cs
  let inner := innerNames s.header name
  if inner.any s.seals.isOpened then throw .malformed
  let seals := inner.foldl Seals.delay s.seals
  let (parents, part) := splitName name
  if seals.isFrozen (s.header ++ parents) then throw .malformed
  let entries ← demand (descend true (putNew part v) (s.header ++ parents) s.entries)
  let seals := if isWhole v then seals.add (s.header ++ name) .frozen else seals
  return ({ s with entries := entries, seals := seals }, skipBlanks rest)

/-- Reads a line that opens a table, from behind its bracket. -/
def readTableLine (s : State) (cs : List Char) : Except Fault (State × List Char) := do
  let (name, rest) ← readName (cs.length + 1) (skipBlanks cs)
  if s.seals.isOpened name ∨ s.seals.isFrozen name then throw .malformed
  let entries ← demand (descend true some name s.entries)
  match rest with
  | ']' :: rest => return (⟨entries, s.seals.add name .opened, name⟩, skipBlanks rest)
  | _ => throw .malformed

/-- Reads a line that opens a new table at the end of a list, from behind its brackets. -/
def readListLine (s : State) (cs : List Char) : Except Fault (State × List Char) := do
  let (name, rest) ← readName (cs.length + 1) (skipBlanks cs)
  if s.seals.isFrozen name then throw .malformed
  let (parents, part) := splitName name
  let entries ← demand (descend true (appendTable part) parents s.entries)
  match rest with
  | ']' :: ']' :: rest =>
    return (⟨entries, (s.seals.clear name).add name .opened, name⟩, skipBlanks rest)
  | _ => throw .malformed

/-- Reads what a line says. -/
def readStatement (s : State) (cs : List Char) : Except Fault (State × List Char) :=
  match cs with
  | '[' :: '[' :: rest => readListLine { s with seals := s.seals.settle } rest
  | '[' :: rest => readTableLine { s with seals := s.seals.settle } rest
  | '#' :: _ => .ok (s, cs)
  | c :: _ => if isBare c ∨ c = '"' ∨ c = '\'' then readEntryLine s cs else refuse
  | [] => .ok (s, cs)

/-- Reads lines up to the end of the document. -/
def readLines : Nat → State → List Char → Except Fault State
  | 0, _, _ => refuse
  | fuel + 1, s, cs =>
    match skipBlanks cs with
    | [] => .ok s
    | '\n' :: rest => readLines fuel s rest
    | cs => do
      let (s, rest) ← readStatement s cs
      match ← skipComment rest with
      | [] => return s
      | '\n' :: rest => readLines fuel s rest
      | _ => throw .malformed

/-- The entries of a document. -/
def read (cs : List Char) : Except Fault Entries :=
  (readLines (cs.length + 1) ⟨[], .none, []⟩ cs).map (·.entries)

end Toml

end StyleImport
