import StyleImport.Yaml.Cursor

/-!
# Plain scalars

A plain scalar has no quotes. It ends where a mapping value, a comment or, inside brackets, a
bracket or comma starts. Over several lines it is folded: one line end becomes a space, and of
several ones the first is dropped.

## Main definitions

- `Yaml.Plain.word`: the characters up to the next blank or end.
- `Yaml.Plain.gap`: the blanks and line ends behind a word.
- `Yaml.Plain.read`: a plain scalar.
-/

namespace StyleImport

namespace Yaml

/-- What decides where a plain scalar ends. -/
structure Plain.Context where
  /-- Tells whether the scalar stands inside brackets. -/
  inFlow : Bool
  /-- The least column of the lines behind the first one, outside of brackets. -/
  indent : Nat
  /-- Tells whether a question mark inside brackets ends the scalar. -/
  questionEnds : Bool

namespace Plain

/-- Tells whether a character ends a scalar inside brackets. -/
def isFlowMark (c : Char) : Bool := ",?[]\x7b\x7d".toList.contains c

/-- The characters of a scalar up to the next blank or end. -/
def word (k : Context) : List Char → List Char
  | [] => []
  | c :: rest =>
    let colon := c = ':' ∧ !isWordEnd (rest.head?.getD endMark)
    let question := c = '?' ∧ !k.questionEnds
    if !colon ∧ !question ∧ (isWordEnd c ∨ c = ':' ∨ (k.inFlow ∧ isFlowMark c)) then []
    else c :: word k rest

/-- Reads the line ends and spaces behind a first line end. There is nothing if a document marker
follows one of them. -/
def moreBreaks : Nat → Cursor → Option (List Char) × Cursor
  | 0, p => (some [], p)
  | fuel + 1, p =>
    if p.peek 0 = ' ' then moreBreaks fuel p.next
    else match p.lineBreak with
      | none => (some [], p)
      | some (c, q) =>
        if q.atDocumentMarker then (none, q)
        else
          let (more, q) := moreBreaks fuel q
          (more.map (c :: ·), q)

/-- What the blanks and line ends behind a word stand for, and whether there was a line end.
Nothing means that the scalar ends there. -/
def gap (p : Cursor) : List Char × Bool × Cursor :=
  let (spaces, q) := p.span (· = ' ')
  match q.lineBreak with
  | none => (spaces, false, q)
  | some (c, q) =>
    if q.atDocumentMarker then ([], true, q)
    else
      let (breaks, q) := moreBreaks q.rest.length q
      match breaks with
      | none => ([], true, q)
      | some breaks =>
        let first := if c ≠ '\n' then [c] else if breaks = [] then [' '] else []
        (first ++ breaks, true, q)

/-- Reads the words of a scalar, where the blanks in `before` stand before the first one. The flag
tells whether the scalar ends behind a line end. -/
def words (k : Context) : Nat → List Char → Bool → Cursor → List Char × Bool × Cursor
  | 0, _, broken, p => ([], broken, p)
  | fuel + 1, before, broken, p =>
    let w := if p.peek 0 = '#' then [] else word k p.rest
    if w = [] then ([], broken, p)
    else
      let (spaces, broken, q) := gap (p.forward w.length)
      if spaces = [] ∨ q.peek 0 = '#' ∨ (!k.inFlow ∧ q.column < k.indent) then
        (before ++ w, broken, q)
      else
        let (more, broken, q) := words k fuel spaces broken q
        (before ++ w ++ more, broken, q)

/-- Reads a plain scalar. The flag tells whether it ends behind a line end. -/
def read (k : Context) (p : Cursor) : List Char × Bool × Cursor :=
  words k p.rest.length [] false p

end Plain

end Yaml

end StyleImport
