import StyleImport.Manifest.Script.Source
import StyleImport.Number.Numeral
import StyleImport.Text.CharacterName
import StyleImport.Text.PlainLetter

/-!
# Names and texts of a script

What the bytes of a name or between quotes stand for. A fault among bytes is placed from the start
of the name or text; in a text with escapes, from the start of its run of bytes outside of ASCII.
A fault in an escape is placed as if each character outside of ASCII were written as an escape
of ten bytes.

## Main definitions

- `Script.nameOf`: the name that bytes stand for.
- `Script.Quoted.content`: the content of a text.
-/

namespace StyleImport

namespace Script

/-- What is wrong with an escape. -/
inductive EscapeKind
  /-- It lacks digits behind its letter. -/
  | digits (letter : Char) (count : Nat)
  /-- Its number is that of no character. -/
  | range
  /-- No name stands between braces. -/
  | noName
  /-- Its name is that of no character. -/
  | unknownName
deriving DecidableEq

/-- The words of a kind of fault. -/
def EscapeKind.words : EscapeKind → Text
  | digits letter count =>
    "truncated \\" ++ Text.ofChars (letter :: List.replicate count 'X') ++ " escape"
  | range => "illegal Unicode character"
  | noName => "malformed \\N character escape"
  | unknownName => "unknown Unicode character name"

/-- A faulty escape. -/
structure EscapeFault where
  /-- What is wrong. -/
  kind : EscapeKind
  /-- The place of its first byte. -/
  start : Nat
  /-- The number of its bytes. -/
  length : Nat
deriving DecidableEq

/-- What is wrong with the bytes of a name or text. -/
inductive ContentFault
  /-- They are no UTF-8. -/
  | bytes (fault : Utf8.DecodeFault)
  /-- An escape is faulty. -/
  | escape (fault : EscapeFault)
deriving DecidableEq

/-- The wording of a fault. -/
def ContentFault.message : ContentFault → Text
  | bytes fault => "(unicode error) " ++ fault.message
  | escape fault =>
    "(unicode error) 'unicodeescape' codec can't decode bytes in position "
      ++ Text.ofNat fault.start ++ "-" ++ Text.ofNat (fault.start + fault.length - 1) ++ ": "
      ++ fault.kind.words

/-- The characters that bytes stand for. -/
def decodeBytes (cs : List Char) : Except ContentFault (List Char) :=
  (Utf8.decode (cs.map shownByte)).mapError .bytes

/-- The name that bytes stand for, in plain letters. -/
def nameOf (cs : List Char) : Except ContentFault (List Char) :=
  (decodeBytes cs).map (·.map plainLetter)

/-- Tells whether a byte stands outside of ASCII. -/
def isHigh (c : Char) : Bool := 0x80 ≤ c.toNat

/-- The characters of bytes, where each run of bytes outside of ASCII is decoded by itself. -/
def decodeRuns : Nat → List Char → Except ContentFault (List Char)
  | 0, _ => .ok []
  | _ + 1, [] => .ok []
  | fuel + 1, c :: rest =>
    if isHigh c then do
      let run ← decodeBytes (c :: rest.takeWhile isHigh)
      return run ++ (← decodeRuns fuel (rest.dropWhile isHigh))
    else return c :: (← decodeRuns fuel rest)

/-- The number that digits in a base stand for, with the given number of digits. -/
def fixedNumber? (base count : Nat) (cs : List Char) : Option Nat :=
  if cs.length < count then none
  else (cs.take count).foldlM (fun n c => do
    let d ← Numeral.digit? (.scalar c)
    if c.toNat < 0x80 ∧ d < base then return n * base + d else none) 0

/-- The number of hexadecimal digits at the start, up to a bound. -/
def countDigits (bound : Nat) (cs : List Char) : Nat :=
  ((cs.take bound).takeWhile fun c => (fixedNumber? 16 1 [c]).isSome).length

/-- The character of an escape of one letter. -/
def letterEscape? : Char → Option Char
  | '\\' => some '\\'
  | '\'' => some '\''
  | '"' => some '"'
  | 'a' => some '\x07'
  | 'b' => some '\x08'
  | 'f' => some '\x0c'
  | 'n' => some '\n'
  | 'r' => some '\r'
  | 't' => some '\t'
  | 'v' => some '\x0b'
  | _ => none

/-- The number of digits of an escape by number. -/
def escapeDigits? : Char → Option Nat
  | 'x' => some 2
  | 'u' => some 4
  | 'U' => some 8
  | _ => none

/-- The number of bytes of characters, where one outside of ASCII is written as an escape. -/
def width (cs : List Char) : Nat := cs.foldl (fun n c => n + if isHigh c then 10 else 1) 0

/-- What an escape stands for. -/
structure Unescaped where
  /-- The text. -/
  text : Text
  /-- The number of its bytes. -/
  length : Nat
  /-- The characters behind it. -/
  rest : List Char

/-- Reads an escape by number, from behind its letter. -/
def readNumberEscape (start : Nat) (letter : Char) (count : Nat) (cs : List Char) :
    Except EscapeFault Unescaped :=
  match fixedNumber? 16 count cs with
  | none =>
    let read := countDigits count cs
    .error ⟨.digits letter count, start, read + 2⟩
  | some n =>
    match CodePoint.ofNat? n with
    | none => .error ⟨.range, start, count + 2⟩
    | some point => .ok ⟨[point], count + 2, cs.drop count⟩

/-- Reads an escape by name, from behind its letter. -/
def readNameEscape (start : Nat) (cs : List Char) : Except EscapeFault Unescaped :=
  match cs with
  | '\x7b' :: rest =>
    let name := rest.takeWhile (· ≠ '\x7d')
    let length := width name + 3
    if name = [] ∨ name.length = rest.length then .error ⟨.noName, start, length⟩
    else match namedChar? name with
      | some c => .ok ⟨[.scalar c], length + 1, rest.drop (name.length + 1)⟩
      | none => .error ⟨.unknownName, start, length + 1⟩
  | _ => .error ⟨.noName, start, 2⟩

/-- Reads an escape, from behind its backslash. An unknown one stands for itself. -/
def readEscape (start : Nat) (c : Char) (rest : List Char) : Except EscapeFault Unescaped :=
  match letterEscape? c, escapeDigits? c with
  | some d, _ => .ok ⟨[.scalar d], 2, rest⟩
  | none, some count => readNumberEscape start c count rest
  | none, none =>
    if c = '\n' then .ok ⟨[], 2, rest⟩
    else if c = 'N' then readNameEscape start rest
    else
      let octal := ((c :: rest).take 3).takeWhile fun c => '0' ≤ c && c ≤ '7'
      match octal, (fixedNumber? 8 octal.length octal).bind CodePoint.ofNat? with
      | _ :: _, some point =>
        .ok ⟨[point], octal.length + 1, (c :: rest).drop octal.length⟩
      | _, _ =>
        .ok ⟨[.scalar '\\', .scalar c], if isHigh c then 16 else 2, rest⟩

/-- The text of characters with escapes, the first of which stands at a place. -/
def unescape : Nat → Nat → List Char → Except EscapeFault Text
  | 0, _, _ => .ok []
  | _ + 1, _, [] => .ok []
  | fuel + 1, place, c :: rest =>
    match c, rest with
    | '\\', d :: rest => do
      let read ← readEscape place d rest
      return read.text ++ (← unescape fuel (place + read.length) read.rest)
    | c, rest => return .scalar c :: (← unescape fuel (place + width [c]) rest)

/-- The bytes between quotes. -/
structure Quoted where
  /-- Tells whether a backslash stands for itself. -/
  raw : Bool
  /-- The bytes. -/
  body : List Char

/-- The content of a text. -/
def Quoted.content (q : Quoted) : Except ContentFault Text :=
  if q.raw || !q.body.contains '\\' then (decodeBytes q.body).map Text.ofChars
  else do
    let cs ← decodeRuns (q.body.length + 1) q.body
    (unescape (cs.length + 1) 0 cs).mapError .escape

/-- The content of texts that stand one behind the other. -/
def contents : List Quoted → Except ContentFault Text
  | [] => .ok []
  | q :: qs => do return (← q.content) ++ (← contents qs)

end Script

end StyleImport
