import StyleImport.Text
import StyleImport.Text.Pattern

/-!
# Kinds of scalars

A plain scalar without a tag is a truth value, a number, a date, or nothing, if it looks like one,
and otherwise a text. The older version of the format knows more spellings of truth values, octal
numbers without a letter, and numbers in groups of sixty.

## Main definitions

- `Yaml.Tag`: the kinds of values.
- `Yaml.Tag.ofName`: the kind with a full name.
- `Yaml.Schema`: the version whose rules hold.
- `Yaml.Schema.implicitTag`: the kind that a scalar without a tag looks like.
-/

namespace StyleImport

namespace Yaml

/-- A kind of values. -/
inductive Tag
  /-- Nothing. -/
  | null
  /-- Truth values. -/
  | bool
  /-- Integers. -/
  | int
  /-- Floating-point numbers. -/
  | double
  /-- Strings of bytes. -/
  | binary
  /-- Dates, with or without a time. -/
  | timestamp
  /-- Texts. -/
  | str
  /-- Lists. -/
  | seq
  /-- Mappings. -/
  | map
  /-- Mappings that are written as lists of single entries. -/
  | orderedMap
  /-- Lists of pairs. -/
  | pairs
  /-- Sets. -/
  | set
  /-- The key that takes over the entries of other mappings. -/
  | merge
  /-- The key whose value stands for a whole mapping. -/
  | value
  /-- Any other kind, of which there are no values. -/
  | unknown
deriving DecidableEq, Inhabited

namespace Tag

/-- What the full names of all known kinds start with. -/
def nameStart : List Char := "tag:yaml.org,2002:".toList

/-- The names of the known kinds. -/
def names : List (String × Tag) :=
  [("null", null), ("bool", bool), ("int", int), ("float", double), ("binary", binary),
   ("timestamp", timestamp), ("str", str), ("seq", seq), ("map", map), ("omap", orderedMap),
   ("pairs", pairs), ("set", set), ("merge", merge), ("value", value)]

/-- The kind with a full name. -/
def ofName (name : List Char) : Tag :=
  match names.find? fun e => nameStart ++ e.1.toList = name with
  | some (_, t) => t
  | none => unknown

end Tag

/-- The characters without a line feed at their end. -/
def dropLastFeed (cs : List Char) : List Char :=
  if cs.getLast? = some '\n' then cs.dropLast else cs

/-- The version of the format whose rules hold. -/
inductive Schema
  /-- The older version, 1.1. -/
  | older
  /-- The current version, 1.2. -/
  | current
deriving DecidableEq

namespace Schema

open Pattern

/-- A sign, or none. -/
def sign : Pattern := optional (oneOf "+-")

/-- A digit or an underscore. -/
def spaced : Pattern := oneOf "0123456789_"

/-- A digit, and digits and underscores behind it. -/
def spacedNumber : Pattern := sequence [digit, many spaced]

/-- The letter before an exponent. -/
def exponentMark : Pattern := oneOf "eE"

/-- An exponent, whose sign may be left out. -/
def exponent : Pattern := sequence [exponentMark, sign, oneOrMore digit]

/-- Digits in groups of sixty behind a colon each. -/
def sixties : Pattern :=
  oneOrMore (sequence [oneOf ":", optional (oneOf "012345"), digit])

/-- The spellings of the truth values. -/
def boolPattern (older : Bool) : Pattern :=
  words (["true", "True", "TRUE", "false", "False", "FALSE"]
    ++ if older then
      ["y", "Y", "yes", "Yes", "YES", "n", "N", "no", "No", "NO", "on", "On", "ON", "off", "Off",
       "OFF"]
    else [])

/-- The spellings of floating-point numbers. -/
def doublePattern (older : Bool) : Pattern :=
  choice [
    sequence [sign, spacedNumber, oneOf ".", many spaced, optional exponent],
    sequence [sign, spacedNumber, exponent],
    sequence [if older then empty else sign, oneOf ".", oneOrMore spaced,
      optional (sequence [exponentMark, oneOf "+-", oneOrMore digit])],
    if older then sequence [sign, spacedNumber, sixties, oneOf ".", many spaced] else nothing,
    sequence [sign, words [".inf", ".Inf", ".INF"]],
    words [".nan", ".NaN", ".NAN"]]

/-- The spellings of integers. -/
def intPattern (older : Bool) : Pattern :=
  sequence [sign, choice ([
      sequence [word "0b", oneOrMore (oneOf "01_")],
      sequence [word "0x", oneOrMore (oneOf "0123456789abcdefABCDEF_")]]
    ++ if older then
      [sequence [optional (oneOf "0"), oneOrMore (oneOf "01234567_")],
       sequence [oneOf "123456789", many spaced, optional sixties],
       word "0"]
    else
      [sequence [word "0", optional (oneOf "o"), oneOrMore (oneOf "01234567_")],
       oneOrMore spaced])]

/-- One or two digits. -/
def oneOrTwoDigits : Pattern := sequence [digit, optional digit]

/-- The spellings of dates and times. -/
def timestampPattern : Pattern :=
  let dash := oneOf "-"
  let colon := oneOf ":"
  let twoDigits := sequence [digit, digit]
  let blanks := many (oneOf " \t")
  choice [
    sequence [twoDigits, twoDigits, dash, twoDigits, dash, twoDigits],
    sequence [twoDigits, twoDigits, dash, oneOrTwoDigits, dash, oneOrTwoDigits,
      either (oneOf "Tt") (oneOrMore (oneOf " \t")),
      oneOrTwoDigits, colon, twoDigits, colon, twoDigits,
      optional (sequence [oneOf ".", many digit]),
      optional (sequence [blanks,
        either (word "Z")
          (sequence [oneOf "+-", oneOrTwoDigits, optional (sequence [colon, twoDigits])])])]]

/-- The spellings of nothing. -/
def nullPattern : Pattern := either empty (words ["~", "null", "Null", "NULL"])

/-- Tells whether a scalar starts like a number. -/
def startsLikeNumber (cs : List Char) : Bool :=
  match cs with
  | [] => false
  | c :: _ => c.isDigit || c = '+' || c = '-'

/-- The kind that the characters of a scalar look like. A line feed at their end does not count,
unless it stands alone. -/
def tagOf (older : Bool) (text : List Char) : Tag :=
  let cs := if text = ['\n'] then text else dropLastFeed text
  if (boolPattern older).fits cs then .bool
  else if (doublePattern older).fits cs then .double
  else if startsLikeNumber cs ∧ (intPattern older).fits cs then .int
  else if cs = "<<".toList then .merge
  else if nullPattern.fits cs then .null
  else if timestampPattern.fits cs then .timestamp
  else if cs = "=".toList then .value
  else .str

/-- The kind that a scalar without a tag looks like. -/
def implicitTag (s : Schema) (t : Text) : Tag :=
  match t.toChars? with
  | none => .str
  | some cs => tagOf (s = older) cs

end Schema

end Yaml

end StyleImport
