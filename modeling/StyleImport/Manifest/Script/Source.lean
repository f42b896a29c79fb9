import StyleImport.Text.Charset

/-!
# The source of a script

A script is read as bytes of UTF-8, each shown as the character of its number: its grammar is
ASCII, and the texts and names in it are decoded one by one. A comment on its first line, or on
its second one behind a blank line or comment, may declare another character set.

## Main definitions

- `Script.declared?`: the declared character set.
- `Script.source`: the source that the bytes of a file hold.
-/

namespace StyleImport

namespace Script

/-- A byte, shown as the character of its number. -/
def showByte (b : UInt8) : Char := Char.ofNat b.toNat

/-- The byte that a character shows. -/
def shownByte (c : Char) : UInt8 := c.toNat.toUInt8

/-- What is wrong with the bytes of a script as a whole. -/
inductive SourceFault
  /-- One of them is zero. -/
  | nullByte
  /-- The declared character set is not known. -/
  | unknownSet (name : List Char)
  /-- What is declared is no character set. -/
  | transform (name : List Char)
  /-- Another character set is declared behind the mark of UTF-8. -/
  | markClash (name : List Char)
  /-- The declared character set does not cover them. -/
  | uncovered (fault : Charset.Fault)
deriving DecidableEq

/-- The wording of a fault, behind which the place stands that is given. -/
def SourceFault.message (place : Text) : SourceFault → Text
  | nullByte => "source code string cannot contain null bytes"
  | unknownSet name => "unknown encoding: " ++ Text.ofChars name ++ place
  | transform name =>
    "'" ++ Text.ofChars name
      ++ "' is not a text encoding; use codecs.decode() to handle arbitrary codecs" ++ place
  | markClash name => "encoding problem: " ++ Text.ofChars name ++ " with BOM" ++ place
  | uncovered fault => fault.message ++ place

/-- Tells whether a character may stand before a comment. -/
def isMargin (c : Char) : Bool := c = ' ' || c = '\t' || c = '\x0c'

/-- Tells whether a character may stand in the name of a character set. -/
def isSetNameChar (c : Char) : Bool := c.isAlphanum || c = '-' || c = '_' || c = '.'

/-- The word that declares a character set. -/
def declaringWord : List Char := "coding".toList

/-- The name that is declared at the start. -/
def declaredHere? (cs : List Char) : Option (List Char) :=
  if declaringWord.isPrefixOf cs then
    match cs.drop declaringWord.length with
    | c :: rest =>
      let name := (rest.dropWhile fun c => c = ' ' || c = '\t').takeWhile isSetNameChar
      if (c = ':' || c = '=') && !name.isEmpty then some name else none
    | [] => none
  else none

/-- The first name that is declared in a comment. -/
def declaredIn? : List Char → Option (List Char)
  | [] => none
  | c :: rest => declaredHere? (c :: rest) <|> declaredIn? rest

/-- The name that a line declares. -/
def declaredOn? (line : List Char) : Option (List Char) :=
  match line.dropWhile isMargin with
  | '#' :: comment => declaredIn? comment
  | _ => none

/-- Tells whether a line is blank or a comment. -/
def isIdle (line : List Char) : Bool :=
  match line.dropWhile isMargin with
  | [] => true
  | c :: _ => c = '#'

/-- The name of the character set that a script declares. -/
def declared? (cs : List Char) : Option (List Char) :=
  let first := cs.takeWhile (· ≠ '\n')
  let second := (cs.drop (first.length + 1)).takeWhile (· ≠ '\n')
  match declaredOn? first with
  | some name => some name
  | none => if isIdle first then declaredOn? second else none

/-- The name of UTF-8. -/
def utf8Name : List Char := "utf-8".toList

/-- The names of the first part of all characters. -/
def latinNames : List (List Char) := ["latin-1".toList, "iso-8859-1".toList, "iso-latin-1".toList]

/-- The name under which a character set is looked up: the common ones count as others that start
with them. -/
def commonName (name : List Char) : List Char :=
  let plain := (name.take 12).map fun c => if c = '_' then '-' else c.toLower
  let counts (known : List Char) : Bool := plain = known || (known ++ ['-']).isPrefixOf plain
  if counts utf8Name then utf8Name
  else if latinNames.any counts then "iso-8859-1".toList
  else name

/-- The mark of UTF-8 at the start of a file. -/
def byteMark : List Char := (Utf8.encodeChar '\uFEFF').map showByte

/-- The source in a character set. -/
def sourceIn (name : List Char) (cs : List Char) : Except SourceFault (List Char) :=
  match Charset.named? (String.ofList name) with
  | none =>
    .error (if Charset.isTransform (String.ofList name) then .transform name else .unknownSet name)
  | some set =>
    match set.decode (cs.map shownByte) with
    | .error fault => .error (.uncovered fault)
    | .ok text => .ok ((Utf8.encodeChars text).map showByte)

/-- The source that the bytes of a file hold. -/
def source (bytes : List UInt8) : Except SourceFault (List Char) :=
  let cs := Utf8.unifyLineEnds (bytes.map showByte)
  let marked := byteMark.isPrefixOf cs
  let cs := if marked then cs.drop byteMark.length else cs
  if bytes.contains 0 then .error .nullByte
  else match (declared? cs).map commonName with
    | none => .ok cs
    | some name =>
      if name = utf8Name then .ok cs
      else if marked then .error (.markClash name)
      else sourceIn name cs

end Script

end StyleImport
