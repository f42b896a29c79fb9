import StyleImport.Json
import StyleImport.Number.Numeral

/-!
# Reading JSON text

The reader accepts the standard grammar and, besides it, the numbers `NaN`, `Infinity` and
`-Infinity`. A number with a fraction or an exponent is a floating-point number, any other number
is an integer. Strings may hold an escape for a lone surrogate; the escapes for the two halves of
a pair are joined.

Each reading function takes the index of the first character of the rest of the text, so that a
fault can be placed.

## Main definitions

- `Json.Fault`: what is wrong with a text, and where.
- `Json.read`: the document of a text.
-/

namespace StyleImport

namespace Json

/-- What is wrong with a JSON text. -/
inductive FaultKind
  /-- No value starts here. -/
  | value
  /-- No name of a field starts here. -/
  | fieldName
  /-- The colon behind the name of a field is missing. -/
  | colon
  /-- The comma behind an item is missing. -/
  | comma
  /-- Something follows the document. -/
  | extraData
  /-- The string that starts here does not end. -/
  | unterminated
  /-- A string holds a control character. -/
  | control
  /-- A string holds an unknown escape. -/
  | escape
  /-- A string holds an escape that lacks its four hexadecimal digits. -/
  | unicodeEscape
  /-- The text starts with a byte order mark. -/
  | byteOrderMark
deriving DecidableEq

/-- The wording of a kind of fault. -/
def FaultKind.message : FaultKind → Text
  | value => "Expecting value"
  | fieldName => "Expecting property name enclosed in double quotes"
  | colon => "Expecting ':' delimiter"
  | comma => "Expecting ',' delimiter"
  | extraData => "Extra data"
  | unterminated => "Unterminated string starting at"
  | control => "Invalid control character at"
  | escape => "Invalid \\escape"
  | unicodeEscape => "Invalid \\uXXXX escape"
  | byteOrderMark => "Unexpected UTF-8 BOM (decode using utf-8-sig)"

/-- Why a reading function stops. -/
inductive Stop
  /-- The text is faulty at an index. -/
  | fault (kind : FaultKind) (index : Nat)
  /-- An integer has too many digits. -/
  | number (fault : Numeral.Fault)
deriving DecidableEq

/-- A place in a text: an index and the characters from there on. -/
structure Cursor where
  /-- The index of the first character of the rest. -/
  index : Nat
  /-- The characters from there on. -/
  rest : List Char

/-- The white space of JSON text. -/
def isSpace (c : Char) : Bool := c = ' ' || c = '\t' || c = '\n' || c = '\r'

/-- The place behind the white space. -/
def Cursor.skipSpace (p : Cursor) : Cursor :=
  ⟨p.index + (p.rest.takeWhile isSpace).length, p.rest.dropWhile isSpace⟩

/-- The value of a hexadecimal digit. -/
def hexDigit? (c : Char) : Option Nat :=
  if '0' ≤ c ∧ c ≤ '9' then some (c.toNat - '0'.toNat)
  else if 'a' ≤ c ∧ c ≤ 'f' then some (c.toNat - 'a'.toNat + 10)
  else if 'A' ≤ c ∧ c ≤ 'F' then some (c.toNat - 'A'.toNat + 10)
  else none

/-- The number of the four hexadecimal digits that a list starts with. -/
def hexQuad? : List Char → Option Nat
  | a :: b :: c :: d :: _ => do
    return ((← hexDigit? a) * 16 + (← hexDigit? b)) * 256 + (← hexDigit? c) * 16 + (← hexDigit? d)
  | _ => none

/-- The character of an escape of one letter. -/
def letterEscape? : Char → Option Char
  | '"' => some '"'
  | '\\' => some '\\'
  | '/' => some '/'
  | 'b' => some '\x08'
  | 'f' => some '\x0c'
  | 'n' => some '\n'
  | 'r' => some '\r'
  | 't' => some '\t'
  | _ => none

/-- The code point that two halves of a pair stand for. -/
def joinPair (high low : Nat) : CodePoint :=
  .scalar (Char.ofNat (0x10000 + (high - 0xD800) * 0x400 + (low - 0xDC00)))

/-- The code point of a number of four hexadecimal digits. -/
def quadPoint (n : Nat) : CodePoint := (CodePoint.ofNat? n).getD default

/-- The code point of the escape whose backslash stands at `index`, from the characters behind the
backslash, and how many of them belong to it. -/
def readEscape (start index : Nat) : List Char → Except Stop (CodePoint × Nat)
  | [] => .error (.fault .unterminated start)
  | 'u' :: more =>
    if more.length ≤ 4 then .error (.fault .unicodeEscape (index + 1))
    else match hexQuad? more with
      | none => .error (.fault .unicodeEscape (index + 1))
      | some n =>
        match more.drop 4 with
        | '\\' :: 'u' :: second =>
          if 0xD800 ≤ n ∧ n < 0xDC00 ∧ 4 < second.length then
            match hexQuad? second with
            | none => .error (.fault .unicodeEscape (index + 7))
            | some m =>
              if 0xDC00 ≤ m ∧ m < 0xE000 then .ok (joinPair n m, 11) else .ok (quadPoint n, 5)
          else .ok (quadPoint n, 5)
        | _ => .ok (quadPoint n, 5)
  | c :: _ =>
    match letterEscape? c with
    | some d => .ok (.scalar d, 1)
    | none => .error (.fault .escape index)

/-- Reads a string whose opening quote stands at `start`, from behind the quote. -/
def readText (start index : Nat) : List Char → Except Stop (Text × Cursor)
  | [] => .error (.fault .unterminated start)
  | c :: rest =>
    if c = '"' then .ok ([], ⟨index + 1, rest⟩)
    else if c = '\\' then
      match readEscape start index rest with
      | .error stop => .error stop
      | .ok (point, size) =>
        (readText start (index + 1 + size) (rest.drop size)).map fun r => (point :: r.1, r.2)
    else if c.toNat < 0x20 then .error (.fault .control index)
    else (readText start (index + 1) rest).map fun r => (.scalar c :: r.1, r.2)
termination_by cs => cs.length
decreasing_by all_goals simp; try omega

/-- The exponent that a list starts with: whether it is negative, its digits, and the number of
all its characters. There is none without a digit. -/
def exponentPart : List Char → Option (Bool × List Char × Nat)
  | e :: rest =>
    if e = 'e' ∨ e = 'E' then
      let (negative, marks, digits) := match rest with
        | '-' :: t => (true, 2, t)
        | '+' :: t => (false, 2, t)
        | t => (false, 1, t)
      match digits.takeWhile Char.isDigit with
      | [] => none
      | ds => some (negative, ds, marks + ds.length)
    else none
  | [] => none

/-- The number that a list of digits stands for. -/
def digitsValue (ds : List Char) : Nat := ds.foldl (fun n d => n * 10 + (d.toNat - '0'.toNat)) 0

/-- The digits before the point of a number: a zero alone, or digits that start with another
one. -/
def wholePart : List Char → List Char
  | '0' :: _ => ['0']
  | cs => cs.takeWhile Char.isDigit

/-- The digits behind the point that a list starts with. -/
def fractionPart : List Char → List Char
  | '.' :: rest => rest.takeWhile Char.isDigit
  | _ => []

/-- Reads a number without its sign. The number of its characters comes with it. -/
def readMagnitude (negative : Bool) (cs : List Char) : Option (Except Stop Json × Nat) :=
  match wholePart cs with
  | [] => none
  | whole =>
    let behind := cs.drop whole.length
    let fraction := fractionPart behind
    let pointed := if fraction = [] then 0 else fraction.length + 1
    let tail := behind.drop pointed
    match exponentPart tail with
    | some (minus, ds, size) =>
      let exponent : Int := if minus then -(digitsValue ds) else digitsValue ds
      some (.ok (.double (.ofDecimal negative (digitsValue (whole ++ fraction))
        (exponent - fraction.length))), whole.length + pointed + size)
    | none =>
      if fraction = [] then
        if whole.length > Numeral.digitLimit then
          some (.error (.number (.tooLong whole.length)), whole.length)
        else
          let size : Int := digitsValue whole
          some (.ok (.int (if negative then -size else size)), whole.length)
      else
        some (.ok (.double (.ofDecimal negative (digitsValue (whole ++ fraction))
          (-fraction.length))), whole.length + pointed)

/-- The words that are values. -/
def words : List (List Char × Json) :=
  [("null".toList, .null), ("true".toList, .bool true), ("false".toList, .bool false),
   ("NaN".toList, .double .nan), ("Infinity".toList, .double (.infinite false)),
   ("-Infinity".toList, .double (.infinite true))]

/-- Reads a value that is no string, array or object. -/
def readAtom (p : Cursor) : Except Stop (Json × Cursor) :=
  match words.find? (·.1.isPrefixOf p.rest) with
  | some (word, v) => .ok (v, ⟨p.index + word.length, p.rest.drop word.length⟩)
  | none =>
    let (negative, body) := match p.rest with
      | '-' :: t => (true, t)
      | t => (false, t)
    match readMagnitude negative body with
    | none => .error (.fault .value p.index)
    | some (result, size) =>
      let size := if negative then size + 1 else size
      result.map fun v => (v, ⟨p.index + size, p.rest.drop size⟩)

mutual

/-- Reads a value. The fuel bounds the number of calls inside each other. -/
def readValue : Nat → Cursor → Except Stop (Json × Cursor)
  | 0, p => .error (.fault .value p.index)
  | fuel + 1, p =>
    match p.rest with
    | '"' :: rest => (readText p.index (p.index + 1) rest).map fun r => (.text r.1, r.2)
    | '[' :: rest =>
      let q := Cursor.skipSpace ⟨p.index + 1, rest⟩
      match q.rest with
      | ']' :: rest => .ok (.array [], ⟨q.index + 1, rest⟩)
      | _ => (readItems fuel q).map fun r => (.array r.1, r.2)
    | '{' :: rest =>
      let q := Cursor.skipSpace ⟨p.index + 1, rest⟩
      match q.rest with
      | '}' :: rest => .ok (.object [], ⟨q.index + 1, rest⟩)
      | _ => (readFields fuel [] q).map fun r => (.object r.1, r.2)
    | _ => readAtom p

/-- Reads the items of an array up to its end. -/
def readItems : Nat → Cursor → Except Stop (List Json × Cursor)
  | 0, p => .error (.fault .value p.index)
  | fuel + 1, p =>
    match readValue fuel p with
    | .error stop => .error stop
    | .ok (v, q) =>
      let q := q.skipSpace
      match q.rest with
      | ']' :: rest => .ok ([v], ⟨q.index + 1, rest⟩)
      | ',' :: rest =>
        (readItems fuel (Cursor.skipSpace ⟨q.index + 1, rest⟩)).map fun r => (v :: r.1, r.2)
      | _ => .error (.fault .comma q.index)

/-- Reads the fields of an object up to its end, behind those that are read. -/
def readFields : Nat → List (Text × Json) → Cursor → Except Stop (List (Text × Json) × Cursor)
  | 0, _, p => .error (.fault .value p.index)
  | fuel + 1, fields, p =>
    match p.rest with
    | '"' :: rest =>
      match readText p.index (p.index + 1) rest with
      | .error stop => .error stop
      | .ok (name, q) =>
        let q := q.skipSpace
        match q.rest with
        | ':' :: rest =>
          match readValue fuel (Cursor.skipSpace ⟨q.index + 1, rest⟩) with
          | .error stop => .error stop
          | .ok (v, q) =>
            let q := q.skipSpace
            let fields := putField name v fields
            match q.rest with
            | '}' :: rest => .ok (fields, ⟨q.index + 1, rest⟩)
            | ',' :: rest => readFields fuel fields (Cursor.skipSpace ⟨q.index + 1, rest⟩)
            | _ => .error (.fault .comma q.index)
        | _ => .error (.fault .colon q.index)
    | _ => .error (.fault .fieldName p.index)

end

/-- What is wrong with a JSON text. -/
inductive Fault
  /-- The text breaks the grammar at a place, given by line, column and index. -/
  | grammar (kind : FaultKind) (line column index : Nat)
  /-- An integer has too many digits. -/
  | number (fault : Numeral.Fault)
deriving DecidableEq

/-- Finds the line and column of a place in a text. -/
def Stop.locate (cs : List Char) : Stop → Fault
  | .number f => .number f
  | .fault kind index =>
    let before := cs.take index
    let column := (before.reverse.takeWhile (· ≠ '\n')).length + 1
    .grammar kind (before.count '\n' + 1) column index

/-- The wording of a fault. -/
def Fault.message : Fault → Text
  | number f => f.message
  | grammar kind line column index =>
    kind.message ++ ": line " ++ Text.ofNat line ++ " column " ++ Text.ofNat column ++ " (char "
      ++ Text.ofNat index ++ ")"

/-- The document of a text. -/
def read (cs : List Char) : Except Fault Json :=
  let result : Except Stop Json := do
    if cs.head? = some '\uFEFF' then throw (.fault .byteOrderMark 0)
    let (v, p) ← readValue (2 * cs.length + 2) (Cursor.skipSpace ⟨0, cs⟩)
    let p := p.skipSpace
    if p.rest ≠ [] then throw (.fault .extraData p.index)
    return v
  result.mapError (Stop.locate cs)

end Json

end StyleImport
