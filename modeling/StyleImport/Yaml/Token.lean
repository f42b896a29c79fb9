import StyleImport.Text

/-!
# Tokens of YAML documents

The pieces that a document is made of. Indentation has become pairs of tokens that open and close
a block, and a token stands before each key of a mapping.
-/

namespace StyleImport

namespace Yaml

/-- A name for a kind of value, as it is written before the value. -/
structure WrittenTag where
  /-- The handle that stands for the start of the name; none if the name is given in full. -/
  handle : Option (List Char)
  /-- The rest of the name. -/
  suffix : List Char
deriving DecidableEq

/-- A line at the start of a document that says how to read it. -/
inductive Directive
  /-- The version of the format. -/
  | version (major minor : Nat)
  /-- What a handle stands for. -/
  | tag (handle start : List Char)
  /-- Any other line, which says nothing. -/
  | other
deriving DecidableEq

/-- A piece of a document. -/
inductive Token
  /-- The end of the document. -/
  | streamEnd
  /-- A line that says how to read the document. -/
  | directive (d : Directive)
  /-- The marker at the start of a document. -/
  | documentStart
  /-- The marker at the end of a document. -/
  | documentEnd
  /-- The start of an indented list. -/
  | blockSequenceStart
  /-- The start of an indented mapping. -/
  | blockMappingStart
  /-- The end of an indented list or mapping. -/
  | blockEnd
  /-- An opening bracket. -/
  | flowSequenceStart
  /-- An opening brace. -/
  | flowMappingStart
  /-- A closing bracket. -/
  | flowSequenceEnd
  /-- A closing brace. -/
  | flowMappingEnd
  /-- The mark before an item of an indented list. -/
  | blockEntry
  /-- The comma between items in brackets or braces. -/
  | flowEntry
  /-- The place before a key. -/
  | key
  /-- The mark before the value of a key. -/
  | value
  /-- A name for a part of the document that stands elsewhere. -/
  | alias (name : List Char)
  /-- A name given to the part that follows. -/
  | anchor (name : List Char)
  /-- The kind of the value that follows. -/
  | tag (t : WrittenTag)
  /-- A scalar, and whether it stands without quotes. -/
  | scalar (t : Text) (plain : Bool)
deriving DecidableEq

end Yaml

end StyleImport
