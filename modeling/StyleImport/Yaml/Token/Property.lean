import StyleImport.Text.Utf8
import StyleImport.Yaml.Scalar.Quoted
import StyleImport.Yaml.Token

/-!
# Anchors, tags and directives

Reading the marks that stand before a value or before the whole document.

## Main definitions

- `Yaml.Property.anchorName`: the name of an anchor or alias.
- `Yaml.Property.tag`, `Yaml.Property.unescape`: a tag, and the end of one in full.
- `Yaml.Property.directive`: a directive.
-/

namespace StyleImport

namespace Yaml.Property

/-- Tells whether a character may stand in the name of an anchor. -/
def isNameChar (c : Char) : Bool :=
  let n := c.toNat
  ((0x21 ≤ n && n ≤ 0x7E) || (0xA0 ≤ n && n ≤ 0xD7FF)
    || (0xE000 ≤ n && n ≤ 0xFFFD && n ≠ 0xFEFF) || 0x10000 ≤ n)
    && !(",[]\x7b\x7d".toList.contains c)

/-- Tells whether a character may follow the name of an anchor. -/
def mayFollowName (c : Char) : Bool :=
  isPropertyEnd c || c = '\t' || "?:,[]\x7b\x7d%@`".toList.contains c

/-- Reads the name of an anchor or alias, from its mark on. -/
def anchorName (p : Cursor) : Except Fault (List Char × Cursor) :=
  let (name, q) := p.next.span isNameChar
  if name = [] ∨ !mayFollowName (q.peek 0) then .error .malformed else .ok (name, q)

/-- Tells whether a character may stand in a handle. -/
def isHandleChar (c : Char) : Bool := c.isAlphanum || c = '-' || c = '_'

/-- Reads a handle: an exclamation mark, or a name between two of them. -/
def handle (p : Cursor) : Except Fault (List Char × Cursor) :=
  if p.peek 0 ≠ '!' then .error .malformed
  else if p.peek 1 = ' ' then .ok (['!'], p.next)
  else
    let (name, q) := p.next.span isHandleChar
    if q.peek 0 = '!' then .ok ('!' :: name ++ ['!'], q.next) else .error .malformed

/-- Tells whether a character may stand in a tag. The hash mark may, but not in old documents. -/
def isTagChar (old : Bool) (c : Char) : Bool :=
  c.isAlphanum || "-;/?:@&=+$,_.!~*'()[]%".toList.contains c || (!old && c = '#')

/-- Reads bytes that are written as a percent sign and two hexadecimal digits each. -/
def escapedBytes : Nat → Cursor → Except Fault (List UInt8 × Cursor)
  | 0, p => .ok ([], p)
  | fuel + 1, p =>
    if p.peek 0 = '%' then
      match Quoted.hexNumber? 0 2 p.next.rest with
      | none => .error .malformed
      | some n => (escapedBytes fuel (p.forward 3)).map fun r => (n.toUInt8 :: r.1, r.2)
    else .ok ([], p)

/-- Reads the characters of a tag. -/
def tagChars (old : Bool) : Nat → Cursor → Except Fault (List Char × Cursor)
  | 0, p => .ok ([], p)
  | fuel + 1, p =>
    let c := p.peek 0
    if c = '%' then do
      let (bytes, q) ← escapedBytes p.rest.length p
      match Utf8.decode bytes with
      | .error _ => throw .malformed
      | .ok cs =>
        let (more, q) ← tagChars old fuel q
        return (cs ++ more, q)
    else if isTagChar old c then (tagChars old fuel p.next).map fun r => (c :: r.1, r.2)
    else .ok ([], p)

/-- Reads the characters of a tag, of which there must be one. -/
def tagName (old : Bool) (p : Cursor) : Except Fault (List Char × Cursor) :=
  if isTagChar old (p.peek 0) then tagChars old p.rest.length p else .error .malformed

/-- Tells whether a second exclamation mark follows before the end of a tag. -/
def hasHandle (p : Cursor) : Bool :=
  (p.rest.drop 1).find? (fun c => c = '!' || isPropertyEnd c) = some '!'

/-- Reads a tag, from its exclamation mark on. One that stands alone, or twice, is the whole tag. -/
def tag (old : Bool) (p : Cursor) : Except Fault (WrittenTag × Cursor) := do
  let (mark, p) := if p.peek 1 = '!' then (['!', '!'], p.next) else (['!'], p)
  let (t, p) ←
    if p.peek 1 = '<' then do
      let (name, q) ← tagName old (p.forward 2)
      if q.peek 0 ≠ '>' then throw .malformed
      pure (⟨none, name⟩, q.next)
    else if isWordEnd (p.peek 1) then pure (⟨none, mark⟩, p.next)
    else do
      let (h, q) ← if hasHandle p then handle p else pure (mark, p.next)
      let (name, q) ← tagName old q
      pure (⟨some h, name⟩, q)
  if !isPropertyEnd (p.peek 0) then throw .malformed
  return (t, p)

/-- The character whose number is written by the given digits. -/
def numbered (digits : List Char) : Except Fault Char :=
  match Numeral.integer? 16 (Text.ofChars digits) with
  | .ok (.ofNat n) => .ok (Char.ofNat n)
  | .ok (.negSucc _) => .error .codePoint
  | .error fault => .error (.numeral fault)

/-- The end of a tag in which each percent sign and the two characters behind it stand for one
character. -/
def unescape : List Char → Except Fault (List Char)
  | '%' :: a :: b :: rest => do return (← numbered [a, b]) :: (← unescape rest)
  | '%' :: rest => (numbered rest).map fun c => [c]
  | c :: rest => (unescape rest).map (c :: ·)
  | [] => .ok []

/-- Reads a number of a version. -/
def versionNumber (p : Cursor) : Except Fault (Nat × Cursor) :=
  match p.span Char.isDigit with
  | ([], _) => .error .malformed
  | (ds, q) => .ok (ds.foldl (fun n d => n * 10 + (d.toNat - '0'.toNat)) 0, q)

/-- Reads a directive, from its percent sign on, and the rest of its line. -/
def directive (old : Bool) (p : Cursor) : Except Fault (Directive × Cursor) := do
  let (name, p) := p.next.span fun c => c.isAlphanum || "-_:.".toList.contains c
  if name = [] ∨ !isPropertyEnd (p.peek 0) then throw .malformed
  let (d, p) ←
    if name = "YAML".toList then do
      let (major, p) ← versionNumber (p.skip (· = ' '))
      if p.peek 0 ≠ '.' then throw .malformed
      let (minor, p) ← versionNumber p.next
      if !isPropertyEnd (p.peek 0) then throw .malformed
      pure (.version major minor, p)
    else if name = "TAG".toList then do
      let (h, p) ← handle (p.skip (· = ' '))
      if p.peek 0 ≠ ' ' then throw .malformed
      let (start, p) ← tagName old (p.skip (· = ' '))
      if !isPropertyEnd (p.peek 0) then throw .malformed
      pure (.tag h start, p)
    else pure (.other, p.skip fun c => !isLineEnd c)
  let p := (p.skip (· = ' ')).skipComment
  if !isLineEnd (p.peek 0) then throw .malformed
  return (d, p.skipLineBreak)

end Yaml.Property

end StyleImport
