import StyleImport.Yaml.Fault

/-!
# Places in a YAML document

A place is the rest of the document from there on, with the index, line and column of its first
character. Looking past the end of the document gives the null character, which no document may
hold.

## Main definitions

- `Yaml.Cursor`: a place in a document.
- `Yaml.Cursor.peek`, `Yaml.Cursor.forward`: looking ahead and going on.
- `Yaml.Cursor.lineBreak`: reading the end of a line.
- `Yaml.isAllowed`: the characters that a document may hold.
-/

namespace StyleImport

namespace Yaml

/-- A place in a document. -/
structure Cursor where
  /-- The rest of the document. -/
  rest : List Char
  /-- The number of characters before this place. -/
  index : Nat
  /-- The number of line feeds before this place. -/
  line : Nat
  /-- The number of characters since the last line feed; byte order marks do not count. -/
  column : Nat

/-- The character that stands for the end of the document. -/
def endMark : Char := '\x00'

/-- Tells whether a document may hold a character. -/
def isAllowed (c : Char) : Bool :=
  let n := c.toNat
  n = 0x9 || n = 0xA || n = 0xD || (0x20 ≤ n && n ≤ 0x7E) || n = 0x85 || (0xA0 ≤ n && n ≤ 0xD7FF)
    || (0xE000 ≤ n && n ≤ 0xFFFD) || 0x10000 ≤ n

/-- Tells whether a character ends a line of a scalar. -/
def isBreak (c : Char) : Bool :=
  c = '\n' || c = '\r' || c = '\x85' || c = '\u2028' || c = '\u2029'

/-- Tells whether a character ends a line of the document, or the document. -/
def isLineEnd (c : Char) : Bool := isBreak c || c = endMark

/-- Tells whether a character ends a word. -/
def isWordEnd (c : Char) : Bool := isLineEnd c || c = ' ' || c = '\t'

/-- Tells whether a character is a space or a tab. -/
def isBlank (c : Char) : Bool := c = ' ' || c = '\t'

/-- Tells whether a character ends a property: a break, the end, or a space. -/
def isPropertyEnd (c : Char) : Bool := isLineEnd c || c = ' '

namespace Cursor

/-- The start of a document. -/
def start (cs : List Char) : Cursor := ⟨cs, 0, 0, 0⟩

/-- The character that stands `n` characters ahead. -/
def peek (p : Cursor) (n : Nat) : Char := (p.rest[n]?).getD endMark

/-- The place behind the next character. -/
def next (p : Cursor) : Cursor :=
  match p.rest with
  | [] => p
  | c :: rest =>
    if c = '\n' ∨ (c = '\r' ∧ rest.head? ≠ some '\n') then ⟨rest, p.index + 1, p.line + 1, 0⟩
    else ⟨rest, p.index + 1, p.line, if c = '\uFEFF' then p.column else p.column + 1⟩

/-- The place behind the next `n` characters. -/
def forward : Nat → Cursor → Cursor
  | 0, p => p
  | n + 1, p => forward n p.next

/-- The next characters that satisfy a test, and the place behind them. -/
def span (test : Char → Bool) (p : Cursor) : List Char × Cursor :=
  let taken := p.rest.takeWhile test
  (taken, forward taken.length p)

/-- The place behind the next characters that satisfy a test. -/
def skip (test : Char → Bool) (p : Cursor) : Cursor := (p.span test).2

/-- Reads the end of a line, if one is there: most ends stand for a line feed. -/
def lineBreak (p : Cursor) : Option (Char × Cursor) :=
  let c := p.peek 0
  if c = '\r' ∧ p.peek 1 = '\n' then some ('\n', p.forward 2)
  else if c = '\r' ∨ c = '\n' ∨ c = '\x85' then some ('\n', p.next)
  else if c = '\u2028' ∨ c = '\u2029' then some (c, p.next)
  else none

/-- Skips the end of a line, if one is there. -/
def skipLineBreak (p : Cursor) : Cursor :=
  match p.lineBreak with
  | some (_, q) => q
  | none => p

/-- Skips a comment, if one is there. -/
def skipComment (p : Cursor) : Cursor :=
  if p.peek 0 = '#' then p.skip fun c => !isLineEnd c else p

/-- Tells whether the next three characters are all the given one and end a word. -/
def atMarker (p : Cursor) (c : Char) : Bool :=
  p.peek 0 = c && p.peek 1 = c && p.peek 2 = c && isWordEnd (p.peek 3)

/-- Tells whether a line that starts or ends a document is there. -/
def atDocumentMarker (p : Cursor) : Bool := p.atMarker '-' || p.atMarker '.'

end Cursor

end Yaml

end StyleImport
