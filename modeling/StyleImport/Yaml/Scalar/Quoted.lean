import StyleImport.Yaml.Cursor

/-!
# Quoted scalars

A scalar between single or double quotes. Between single quotes only the quote itself is written
in a special way, twice; between double quotes a backslash starts an escape. Line ends are folded
as in plain scalars, and a line end behind a backslash is dropped.

## Main definitions

- `Yaml.Quoted.escape?`: the escapes of one letter.
- `Yaml.Quoted.breaks`: the line ends and blanks behind a line end.
- `Yaml.Quoted.read`: a quoted scalar.
-/

namespace StyleImport

namespace Yaml.Quoted

/-- The character of an escape of one letter. -/
def escape? : Char → Option Char
  | '0' => some '\x00'
  | 'a' => some '\x07'
  | 'b' => some '\x08'
  | 't' => some '\t'
  | '\t' => some '\t'
  | 'n' => some '\n'
  | 'v' => some '\x0b'
  | 'f' => some '\x0c'
  | 'r' => some '\r'
  | 'e' => some '\x1b'
  | ' ' => some ' '
  | '"' => some '"'
  | '/' => some '/'
  | '\\' => some '\\'
  | 'N' => some '\x85'
  | '_' => some '\xa0'
  | 'L' => some '\u2028'
  | 'P' => some '\u2029'
  | _ => none

/-- The number of digits of an escape by number. -/
def escapeDigits? : Char → Option Nat
  | 'x' => some 2
  | 'u' => some 4
  | 'U' => some 8
  | _ => none

/-- The value of a hexadecimal digit. -/
def hexDigit? (c : Char) : Option Nat :=
  if '0' ≤ c ∧ c ≤ '9' then some (c.toNat - '0'.toNat)
  else if 'a' ≤ c ∧ c ≤ 'f' then some (c.toNat - 'a'.toNat + 10)
  else if 'A' ≤ c ∧ c ≤ 'F' then some (c.toNat - 'A'.toNat + 10)
  else none

/-- The number that the next `n` hexadecimal digits stand for, if they are there. -/
def hexNumber? (acc : Nat) : Nat → List Char → Option Nat
  | 0, _ => some acc
  | _ + 1, [] => none
  | n + 1, c :: rest =>
    match hexDigit? c with
    | some d => hexNumber? (acc * 16 + d) n rest
    | none => none

/-- Reads the blanks and line ends behind a line end. A document marker may not follow. -/
def breaks : Nat → Cursor → Except Fault (List Char × Cursor)
  | 0, p => .ok ([], p)
  | fuel + 1, p =>
    if p.atDocumentMarker then .error .malformed
    else
      let q := p.skip isBlank
      match q.lineBreak with
      | none => .ok ([], q)
      | some (c, q) => (breaks fuel q).map fun r => (c :: r.1, r.2)

/-- Reads the blanks between two words, and the line ends among them. -/
def gap (p : Cursor) : Except Fault (List Char × Cursor) :=
  let (spaces, q) := p.span isBlank
  match q.lineBreak with
  | none => if q.peek 0 = endMark then .error .malformed else .ok (spaces, q)
  | some (c, q) =>
    (breaks (q.rest.length + 1) q).map fun r =>
      let first := if c ≠ '\n' then [c] else if r.1 = [] then [' '] else []
      (first ++ r.1, r.2)

/-- Reads an escape, from behind its backslash. -/
def escape (p : Cursor) : Except Fault (Text × Cursor) :=
  let c := p.peek 0
  match escape? c, escapeDigits? c with
  | some d, _ => .ok ([.scalar d], p.next)
  | none, some n =>
    match hexNumber? 0 n p.next.rest with
    | none => .error .malformed
    | some code =>
      match CodePoint.ofNat? code with
      | none => .error (if code ≤ 0x7FFFFFFF then .codePoint else .codePointSize)
      | some point => .ok ([point], p.next.forward n)
  | none, none =>
    match p.lineBreak with
    | some (_, q) => (breaks (q.rest.length + 1) q).map fun r => (Text.ofChars r.1, r.2)
    | none => .error .malformed

/-- Reads a scalar up to its closing quote, from behind the opening one. -/
def content (quote : Char) : Nat → Cursor → Except Fault (Text × Cursor)
  | 0, _ => .error .malformed
  | fuel + 1, p =>
    let c := p.peek 0
    let goOn (front : Text) (q : Cursor) : Except Fault (Text × Cursor) :=
      (content quote fuel q).map fun r => (front ++ r.1, r.2)
    if c = quote then
      if quote = '\'' ∧ p.peek 1 = '\'' then goOn [.scalar '\''] (p.forward 2)
      else .ok ([], p.next)
    else if c = '\\' ∧ quote = '"' then
      match escape p.next with
      | .error fault => .error fault
      | .ok (t, q) => goOn t q
    else if isBlank c ∨ isBreak c ∨ p.rest = [] then
      match gap p with
      | .error fault => .error fault
      | .ok (cs, q) => goOn (Text.ofChars cs) q
    else goOn [.scalar c] p.next

/-- Reads a quoted scalar, from its opening quote on. -/
def read (p : Cursor) : Except Fault (Text × Cursor) :=
  content (p.peek 0) (p.rest.length + 1) p.next

end Yaml.Quoted

end StyleImport
