import StyleImport.Yaml.Cursor

/-!
# Block scalars

A block scalar consists of the indented lines below its indicator. Literal lines are kept, folded
ones are joined by spaces unless one of them starts with a blank. Indicators behind the first one
say how many columns the lines are indented, and whether the line ends at the end of the scalar
are all dropped, all kept, or reduced to one.

## Main definitions

- `Yaml.Block.Header`: what the indicators say.
- `Yaml.Block.lines`: the lines of a scalar.
- `Yaml.Block.read`: a block scalar.
-/

namespace StyleImport

namespace Yaml.Block

/-- What the indicators of a block scalar say. -/
structure Header where
  /-- Tells whether the line ends at the end are all kept, or all dropped. -/
  keep : Option Bool
  /-- The number of columns that the lines are indented. -/
  increment : Option Nat

/-- Reads a sign for the line ends at the end of a scalar. -/
def keepSign (p : Cursor) : Option Bool × Cursor :=
  match p.peek 0 with
  | '+' => (some true, p.next)
  | '-' => (some false, p.next)
  | _ => (none, p)

/-- Reads a digit for the indentation, which may not be zero. -/
def incrementDigit (p : Cursor) : Except Fault (Option Nat × Cursor) :=
  let c := p.peek 0
  if c = '0' then .error .malformed
  else if '1' ≤ c ∧ c ≤ '9' then .ok (some (c.toNat - '0'.toNat), p.next)
  else .ok (none, p)

/-- Reads the indicators, which may stand in either order, and the rest of their line. -/
def header (p : Cursor) : Except Fault (Header × Cursor) := do
  let (keep, p) := keepSign p
  let (increment, p) ← incrementDigit p
  let (keep, p) := if keep.isNone ∧ increment.isSome then keepSign p else (keep, p)
  if !isPropertyEnd (p.peek 0) then throw .malformed
  let p := (p.skip (· = ' ')).skipComment
  if !isLineEnd (p.peek 0) then throw .malformed
  return (⟨keep, increment⟩, p.skipLineBreak)

/-- The line ends at the start of a scalar whose indentation is not given. -/
structure Lead where
  /-- The line ends. -/
  breaks : List Char
  /-- The column of the first line end. -/
  first : Option Nat
  /-- The greatest column of a character behind a space. -/
  widest : Nat

/-- Reads the spaces and line ends at the start of a scalar. -/
def lead : Nat → Lead → Cursor → Lead × Cursor
  | 0, acc, p => (acc, p)
  | fuel + 1, acc, p =>
    if p.peek 0 = ' ' then
      let q := p.next
      lead fuel { acc with widest := max acc.widest q.column } q
    else match p.lineBreak with
      | none => (acc, p)
      | some (c, q) =>
        lead fuel { acc with breaks := acc.breaks ++ [c], first := acc.first.or p.column } q

/-- Skips spaces up to a column. -/
def toColumn (indent : Nat) (p : Cursor) : Cursor :=
  p.forward ((p.rest.take (indent - p.column)).takeWhile (· = ' ')).length

/-- Reads line ends and the indentation behind each of them. -/
def breaks (indent : Nat) : Nat → Cursor → List Char × Cursor
  | 0, p => ([], p)
  | fuel + 1, p =>
    let q := toColumn indent p
    match q.lineBreak with
    | none => ([], q)
    | some (c, q) =>
      let (more, q) := breaks indent fuel q
      (c :: more, q)

/-- How the lines of a scalar are put together. -/
structure Style where
  /-- Tells whether lines are joined. -/
  folded : Bool
  /-- The column of the lines. -/
  indent : Nat
  /-- Tells whether a document marker ends the scalar. -/
  atTop : Bool

/-- The lines of a scalar up to its last one. -/
structure Body where
  /-- The text up to the last line. -/
  text : List Char
  /-- The end of the last line. -/
  lineEnd : List Char
  /-- The further line ends behind it. -/
  trailing : List Char

/-- Reads the lines of a scalar. The line ends in `before` stand before the first one, and `last`
is the end of the line before them. -/
def lines (s : Style) : Nat → List Char → List Char → Cursor → Body × Cursor
  | 0, before, last, p => (⟨[], last, before⟩, p)
  | fuel + 1, before, last, p =>
    if p.column ≠ s.indent ∨ p.rest = [] then (⟨[], last, before⟩, p)
    else
      let startsPlain := !isBlank (p.peek 0)
      let (line, q) := p.span fun c => !isLineEnd c
      let (lineEnd, q) := match q.lineBreak with
        | some (c, q) => ([c], q)
        | none => ([], q)
      let (between, q) := breaks s.indent (q.rest.length + 1) q
      if (s.atTop ∧ q.atDocumentMarker ∧ q.column = 0) ∨ q.column ≠ s.indent ∨ q.rest = [] then
        (⟨before ++ line, lineEnd, between⟩, q)
      else
        let joint :=
          if s.folded ∧ lineEnd = ['\n'] ∧ startsPlain ∧ !isBlank (q.peek 0) then
            if between = [] then [' '] else []
          else lineEnd
        let (body, q) := lines s fuel between lineEnd q
        (⟨before ++ line ++ joint ++ body.text, body.lineEnd, body.trailing⟩, q)

/-- Reads a block scalar, from its indicator on. The scalar belongs to a block whose lines start at
column `parent`, or to the document itself. -/
def read (parent : Option Nat) (p : Cursor) : Except Fault (Text × Cursor) := do
  let folded := p.peek 0 = '>'
  let (h, p) ← header p.next
  let least := match parent with
    | some column => column + 1
    | none => 0
  let (indent, before, p) ← match h.increment with
    | some n =>
      let indent := max 1 least + n - 1
      let (before, p) := breaks indent (p.rest.length + 1) p
      pure (indent, before, p)
    | none =>
      let (l, p) := lead p.rest.length ⟨[], none, 0⟩ p
      match l.first with
      | some column => if 0 < column ∧ column < l.widest then throw .malformed
      | none => pure ()
      pure (max least l.widest, l.breaks, p)
  let atTop := h.increment.isNone && least = 0
  let (body, p) := lines ⟨folded, indent, atTop⟩ p.rest.length before [] p
  let ending := match h.keep with
    | some true => body.lineEnd ++ body.trailing
    | none => body.lineEnd
    | some false => []
  return (Text.ofChars (body.text ++ ending), p)

end Yaml.Block

end StyleImport
