import StyleImport.Json
import StyleImport.Number.Shortest
import StyleImport.Text.Utf8

/-!
# Writing JSON text

A document is written over several lines: each item of an array and each field of an object has
its own line, two spaces deeper than the brackets around it, and empty arrays and objects are two
brackets. Strings keep every character but the quote, the backslash and the control characters
below U+0020. Single-line text instead escapes all that is not ASCII.

## Main definitions

- `Json.quotedText`: a string between quotes.
- `Json.write`: a document over several lines.
- `Json.asciiText`: a string between quotes, in ASCII.
- `Json.surrogates?`: what keeps a document from being written as bytes.
-/

namespace StyleImport

namespace Json

/-- The form of a control character that has an escape of its own, of the quote, and of the
backslash. -/
def namedEscape? : Char → Option Text
  | '"' => some "\\\""
  | '\\' => some "\\\\"
  | '\x08' => some "\\b"
  | '\t' => some "\\t"
  | '\n' => some "\\n"
  | '\x0c' => some "\\f"
  | '\r' => some "\\r"
  | _ => none

/-- The form of a code point inside a string. -/
def quotedPoint : CodePoint → Text
  | .surrogate i => [.surrogate i]
  | .scalar c =>
    match namedEscape? c with
    | some t => t
    | none => if c.toNat < 0x20 then "\\u" ++ Text.ofNatHex 4 c.toNat else [.scalar c]

/-- A string between quotes. -/
def quotedText (t : Text) : Text := .scalar '"' :: t.flatMap quotedPoint ++ [.scalar '"']

/-- The form of a code point inside an ASCII string. A character outside the basic plane is
written as the two halves of its pair. -/
def asciiPoint : CodePoint → Text
  | .surrogate i => "\\u" ++ Text.ofNatHex 4 (0xD800 + i.val)
  | .scalar c =>
    match namedEscape? c with
    | some t => t
    | none =>
      let n := c.toNat
      if 0x20 ≤ n ∧ n < 0x7f then [.scalar c]
      else if n < 0x10000 then "\\u" ++ Text.ofNatHex 4 n
      else
        "\\u" ++ Text.ofNatHex 4 (0xD800 + (n - 0x10000) / 0x400)
          ++ "\\u" ++ Text.ofNatHex 4 (0xDC00 + (n - 0x10000) % 0x400)

/-- A string between quotes, in ASCII. -/
def asciiText (t : Text) : Text := .scalar '"' :: t.flatMap asciiPoint ++ [.scalar '"']

/-- A line break and the indentation of a depth. -/
def newLine (depth : Nat) : Text := .scalar '\n' :: List.replicate (2 * depth) (.scalar ' ')

mutual

/-- A document that starts at a depth. -/
def writeAt (depth : Nat) : Json → Text
  | null => "null"
  | bool true => "true"
  | bool false => "false"
  | int n => Text.ofInt n
  | double x => x.toText
  | text t => quotedText t
  | array [] => "[]"
  | array (v :: vs) =>
    "[" ++ newLine (depth + 1) ++ writeAt (depth + 1) v ++ writeItems depth vs
  | object [] => "\x7b\x7d"
  | object ((name, v) :: rest) =>
    "\x7b" ++ newLine (depth + 1) ++ quotedText name ++ ": " ++ writeAt (depth + 1) v
      ++ writeFields depth rest

/-- The items behind the first one, and the end of the array. -/
def writeItems (depth : Nat) : List Json → Text
  | [] => newLine depth ++ "]"
  | v :: vs => "," ++ newLine (depth + 1) ++ writeAt (depth + 1) v ++ writeItems depth vs

/-- The fields behind the first one, and the end of the object. -/
def writeFields (depth : Nat) : List (Text × Json) → Text
  | [] => newLine depth ++ "\x7d"
  | (name, v) :: rest =>
    "," ++ newLine (depth + 1) ++ quotedText name ++ ": " ++ writeAt (depth + 1) v
      ++ writeFields depth rest

end

/-- A document over several lines. -/
def write (v : Json) : Text := writeAt 0 v

mutual

/-- The lone surrogates in the first string of a document that holds some. -/
def surrogates? : Json → Option Utf8.EncodeFault
  | text t => Utf8.firstSurrogates 0 t
  | array items => surrogatesOfItems? items
  | object fields => surrogatesOfFields? fields
  | _ => none

/-- The lone surrogates in the first string of an array that holds some. -/
def surrogatesOfItems? : List Json → Option Utf8.EncodeFault
  | [] => none
  | v :: vs => surrogates? v <|> surrogatesOfItems? vs

/-- The lone surrogates in the first string of an object, names included, that holds some. -/
def surrogatesOfFields? : List (Text × Json) → Option Utf8.EncodeFault
  | [] => none
  | (name, v) :: rest =>
    Utf8.firstSurrogates 0 name <|> surrogates? v <|> surrogatesOfFields? rest

end

end Json

end StyleImport
