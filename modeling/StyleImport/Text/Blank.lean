import StyleImport.Text

/-!
# Blank characters and line boundaries

Which characters separate words, and which ones end a line of text.
-/

namespace StyleImport

/-- The numbers of the characters that separate words. -/
def blankNumbers : List Nat :=
  [0x9, 0xa, 0xb, 0xc, 0xd, 0x1c, 0x1d, 0x1e, 0x1f, 0x20, 0x85, 0xa0, 0x1680, 0x2000, 0x2001,
   0x2002, 0x2003, 0x2004, 0x2005, 0x2006, 0x2007, 0x2008, 0x2009, 0x200a, 0x2028, 0x2029,
   0x202f, 0x205f, 0x3000]

/-- Tells whether a code point separates words. -/
def CodePoint.isBlank (c : CodePoint) : Bool := blankNumbers.contains c.toNat

/-- The numbers of the characters that end a line. -/
def lineBoundaryNumbers : List Nat :=
  [0xa, 0xb, 0xc, 0xd, 0x1c, 0x1d, 0x1e, 0x85, 0x2028, 0x2029]

/-- Tells whether a code point ends a line. -/
def CodePoint.isLineBoundary (c : CodePoint) : Bool := lineBoundaryNumbers.contains c.toNat

namespace Text

/-- The text without blanks at both ends. -/
def strip (t : Text) : Text := dropEndWhile (·.isBlank) (t.dropWhile (·.isBlank))

/-- The number of lines of a text. A carriage return and a line feed after it end one line, and
a text that ends in a boundary has no further line after it. -/
def lineCount : Text → Nat
  | [] => 0
  | [_] => 1
  | c :: d :: t =>
    if c = .scalar '\r' ∧ d = .scalar '\n' then lineCount (d :: t)
    else if c.isLineBoundary then lineCount (d :: t) + 1
    else lineCount (d :: t)

end Text

end StyleImport
