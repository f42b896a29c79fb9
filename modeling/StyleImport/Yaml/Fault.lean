import StyleImport.Moment
import StyleImport.Number.Numeral

/-!
# Faults of YAML documents

What is wrong with a document. Most faults are breaches of the grammar or of the rules for tags,
anchors and keys, and these are not told apart. The others come from a single scalar whose tag asks
for a value that its text does not give.

## Main definitions

- `Yaml.Fault`: the faults.
- `Yaml.Fault.message`: their wording.
-/

namespace StyleImport

namespace Yaml

/-- What is wrong with a document. -/
inductive Fault
  /-- The document breaks the grammar, or a rule for tags, anchors or keys. -/
  | malformed
  /-- An escape names a number that is no code point. -/
  | codePoint
  /-- An escape names a number that does not even fit into 31 bits. -/
  | codePointSize
  /-- The document asks for a version of the format that is not known. -/
  | version (major minor : Nat)
  /-- A numeral is not read. -/
  | numeral (fault : Numeral.Fault)
  /-- A numeral has no character besides underscores. -/
  | emptyNumeral
  /-- A numeral of the older version has several exponents. -/
  | manyExponents
  /-- A message about a key would hold an integer that cannot be written. -/
  | unwritable
  /-- A text is no truth value. -/
  | truthValue (text : Text)
  /-- A date or time is out of range. -/
  | moment (fault : Moment.Fault)
  /-- A key of an ordered mapping stands there twice. -/
  | repeatedKey
  /-- A value of a kind that cannot be a key is one. -/
  | unfitKey (kind : String)
  /-- A part of the document contains itself. -/
  | circular
deriving DecidableEq

/-- The wording of a fault. -/
def Fault.message : Fault → Text
  | malformed => "<yaml>"
  | codePoint => "chr() arg not in range(0x110000)"
  | codePointSize => "Python int too large to convert to C int"
  | version major minor =>
    "version minor part can only be 2 or 1, got (" ++ Text.ofNat major ++ ", " ++ Text.ofNat minor
      ++ ")"
  | numeral f => f.message
  | emptyNumeral => "string index out of range"
  | manyExponents => "too many values to unpack (expected 2)"
  | unwritable => Numeral.unwritableMessage
  | truthValue t => t.quoted
  | moment f => f.message
  | repeatedKey => ""
  | unfitKey kind => "unhashable type: '" ++ Text.ofString kind ++ "'"
  | circular => ""

end Yaml

end StyleImport
