import StyleImport.Text.Printable

/-!
# Quoted text

A text inside a message or a list stands between quotes. Single quotes are used unless the text
holds one and no double quote. The quote in use and the backslash are written after a backslash,
as are tab, line feed and carriage return; any other code point that is not printable is written
by its number.

## Main definitions

- `CodePoint.numericEscape`: a code point written by its number.
- `Text.quoted`: the quoted form of a text.
- `Text.spelled`: a text with its lone surrogates written by their numbers.
-/

namespace StyleImport

namespace CodePoint

/-- A code point written by its number, in as few as two, four or eight hexadecimal digits. -/
def numericEscape (c : CodePoint) : Text :=
  let n := c.toNat
  if n < 0x100 then "\\x" ++ Text.ofNatHex 2 n
  else if n < 0x10000 then "\\u" ++ Text.ofNatHex 4 n
  else "\\U" ++ Text.ofNatHex 8 n

/-- A code point as it stands between two quotes of the given kind. -/
def quotedBetween (quote : Char) (c : CodePoint) : Text :=
  if c = .scalar quote ∨ c = .scalar '\\' then [.scalar '\\', c]
  else if c = .scalar '\t' then "\\t"
  else if c = .scalar '\n' then "\\n"
  else if c = .scalar '\r' then "\\r"
  else if c.isPrintable then [c]
  else c.numericEscape

end CodePoint

/-- The quote that a text is put into. -/
def Text.quoteMark (t : Text) : Char :=
  if t.contains (.scalar '\'') ∧ !t.contains (.scalar '"') then '"' else '\''

/-- The quoted form of a text. -/
def Text.quoted (t : Text) : Text :=
  let quote := quoteMark t
  .scalar quote :: t.flatMap (CodePoint.quotedBetween quote) ++ [.scalar quote]

/-- A text with its lone surrogates written by their numbers. -/
def Text.spelled (t : Text) : Text :=
  t.flatMap fun c => if c.isSurrogate then c.numericEscape else [c]

end StyleImport
