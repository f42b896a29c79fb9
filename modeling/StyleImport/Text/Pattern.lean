/-!
# Patterns

Regular expressions over characters, matched against a whole text by derivatives: the derivative
of a pattern by a character matches what may follow that character in a text that the pattern
matches.

## Main definitions

- `Pattern`: regular expressions.
- `Pattern.derive`, `Pattern.isNullable`: the two halves of matching.
- `Pattern.fits`: whether a pattern matches a text.
- `Pattern.word`, `Pattern.sequence`, `Pattern.choice`, `Pattern.optional`, `Pattern.oneOrMore`:
  patterns built from others.
-/

namespace StyleImport

/-- A regular expression. -/
inductive Pattern
  /-- Matches no text. -/
  | nothing
  /-- Matches the empty text. -/
  | empty
  /-- Matches one character that satisfies a test. -/
  | char (test : Char → Bool)
  /-- Matches a text of the first pattern followed by one of the second. -/
  | append (first second : Pattern)
  /-- Matches a text of either pattern. -/
  | either (left right : Pattern)
  /-- Matches any number of texts of a pattern, one after the other. -/
  | many (item : Pattern)

namespace Pattern

/-- Tells whether a pattern matches the empty text. -/
def isNullable : Pattern → Bool
  | nothing => false
  | empty => true
  | char _ => false
  | append first second => first.isNullable && second.isNullable
  | either left right => left.isNullable || right.isNullable
  | many _ => true

/-- One pattern followed by another, without needless parts. -/
def join : Pattern → Pattern → Pattern
  | nothing, _ => nothing
  | empty, second => second
  | first, second => append first second

/-- Either of two patterns, without needless parts. -/
def orElse : Pattern → Pattern → Pattern
  | nothing, right => right
  | left, nothing => left
  | left, right => either left right

/-- What may follow a character. -/
def derive (c : Char) : Pattern → Pattern
  | nothing => nothing
  | empty => nothing
  | char test => if test c then empty else nothing
  | append first second =>
    let rest := join (first.derive c) second
    if first.isNullable then orElse rest (second.derive c) else rest
  | either left right => orElse (left.derive c) (right.derive c)
  | many item => join (item.derive c) (many item)

/-- Tells whether a pattern matches a text. -/
def fits : Pattern → List Char → Bool
  | nothing, _ => false
  | p, [] => p.isNullable
  | p, c :: cs => (p.derive c).fits cs

/-- Patterns one after the other. -/
def sequence (ps : List Pattern) : Pattern := ps.foldr append empty

/-- One of several patterns. -/
def choice (ps : List Pattern) : Pattern := ps.foldr either nothing

/-- A pattern or the empty text. -/
def optional (p : Pattern) : Pattern := either p empty

/-- One text of a pattern or several ones. -/
def oneOrMore (p : Pattern) : Pattern := append p (many p)

/-- One of the characters of a string. -/
def oneOf (s : String) : Pattern := char s.toList.contains

/-- The characters of a string one after the other. -/
def word (s : String) : Pattern := sequence (s.toList.map fun c => char (· = c))

/-- One of several strings. -/
def words (ss : List String) : Pattern := choice (ss.map word)

/-- A decimal digit. -/
def digit : Pattern := char Char.isDigit

end Pattern

end StyleImport
