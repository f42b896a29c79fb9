import StyleImport.Number.Numeral
import StyleImport.Value

/-!
# Texts, numbers and dates in TOML documents

Reading the values of a document that hold no other values. Each reading function gives the value
and the characters behind it.

## Main definitions

- `Toml.Fault`: what is wrong with a document.
- `Toml.readString`: a text in one of its four forms.
- `Toml.readPlain`: a truth value, date, time or number.
-/

namespace StyleImport

namespace Toml

/-- What is wrong with a document. -/
inductive Fault
  /-- The document breaks the grammar, or a rule for names. -/
  | malformed
  /-- An integer has too many digits. -/
  | numeral (fault : Numeral.Fault)
deriving DecidableEq

/-- The result of a reading function: a value and the characters behind it. -/
abbrev Taken (α : Type) := Except Fault (α × List Char)

/-- A breach of the grammar. -/
def refuse {α : Type} : Except Fault α := .error .malformed

/-- Tells whether a character may not stand in a comment or in a text on one line. -/
def isControl (c : Char) : Bool := (c.toNat < 0x20 && c ≠ '\t') || c.toNat = 0x7F

/-- Tells whether a character is a space or a tab. -/
def isBlank (c : Char) : Bool := c = ' ' || c = '\t'

/-- Skips spaces and tabs. -/
def skipBlanks (cs : List Char) : List Char := cs.dropWhile isBlank

/-- The character of an escape of one letter. -/
def escape? : Char → Option Char
  | 'b' => some '\x08'
  | 't' => some '\t'
  | 'n' => some '\n'
  | 'f' => some '\x0c'
  | 'r' => some '\r'
  | '"' => some '"'
  | '\\' => some '\\'
  | _ => none

/-- The number that hexadecimal digits stand for. -/
def hexNumber? (cs : List Char) : Option Nat :=
  cs.foldlM (fun n c => do
    let d ← Numeral.digit? (.scalar c)
    if c.toNat < 0x80 ∧ d < 16 then return n * 16 + d else none) 0

/-- Reads a character by its number, which has the given number of digits. -/
def readNumbered (digits : Nat) (cs : List Char) : Taken Char :=
  if cs.length < digits then refuse
  else match hexNumber? (cs.take digits) with
    | none => refuse
    | some n => if n.isValidChar then .ok (Char.ofNat n, cs.drop digits) else refuse

/-- Reads an escape, from behind its backslash. A backslash at the end of a line of a text over
several lines is dropped with all blanks and line ends behind it. -/
def readEscape (multiline : Bool) : List Char → Taken (List Char)
  | [] => refuse
  | c :: rest =>
    if multiline ∧ (isBlank c ∨ c = '\n') then
      let skipAll (cs : List Char) := cs.dropWhile fun c => isBlank c || c = '\n'
      match skipBlanks (c :: rest) with
      | [] => .ok ([], [])
      | '\n' :: rest => .ok ([], skipAll rest)
      | _ => refuse
    else if c = 'u' then (readNumbered 4 rest).map fun r => ([r.1], r.2)
    else if c = 'U' then (readNumbered 8 rest).map fun r => ([r.1], r.2)
    else match escape? c with
      | some d => .ok ([d], rest)
      | none => refuse

/-- Tells whether three of a character stand at the start. -/
def startsTriple (quote : Char) (cs : List Char) : Bool := [quote, quote, quote].isPrefixOf cs

/-- Reads a text up to its closing quotes. -/
def readContent (quote : Char) (multiline : Bool) : Nat → List Char → Taken (List Char)
  | 0, _ => refuse
  | _ + 1, [] => refuse
  | fuel + 1, c :: rest =>
    let goOn (front : List Char) (cs : List Char) : Taken (List Char) :=
      (readContent quote multiline fuel cs).map fun r => (front ++ r.1, r.2)
    if c = quote ∧ !multiline then .ok ([], rest)
    else if c = quote ∧ startsTriple quote (c :: rest) then .ok ([], rest.drop 2)
    else if c = '\\' ∧ quote = '"' then
      match readEscape multiline rest with
      | .error fault => .error fault
      | .ok (front, cs) => goOn front cs
    else if isControl c ∧ !(multiline ∧ c = '\n') then refuse
    else goOn [c] rest

/-- Adds the quotes that stand before the three closing ones of a text over several lines. -/
def addQuotes (quote : Char) (r : List Char × List Char) : List Char × List Char :=
  let extra := (r.2.take 2).takeWhile (· = quote)
  (r.1 ++ extra, r.2.drop extra.length)

/-- Reads a text, from its opening quotes on. -/
def readString (cs : List Char) : Taken (List Char) :=
  match cs with
  | [] => refuse
  | quote :: rest =>
    if startsTriple quote cs then
      let body := match rest.drop 2 with
        | '\n' :: body => body
        | body => body
      (readContent quote true (body.length + 1) body).map (addQuotes quote)
    else readContent quote false (rest.length + 1) rest

/-- Reads a text on one line. -/
def readLineString (cs : List Char) : Taken (List Char) :=
  match cs with
  | [] => refuse
  | quote :: rest => readContent quote false (rest.length + 1) rest

/-- The number of some digits at the start, if it lies between two bounds, and what follows. -/
def fixedNumber (digits least most : Nat) (cs : List Char) : Option (Nat × List Char) :=
  let ds := (cs.take digits).takeWhile Char.isDigit
  let n := ds.foldl (fun n d => n * 10 + (d.toNat - '0'.toNat)) 0
  if ds.length = digits ∧ least ≤ n ∧ n ≤ most then some (n, cs.drop digits) else none

/-- Takes one character off. -/
def takeChar (c : Char) : List Char → Option (List Char)
  | d :: cs => if c = d then some cs else none
  | [] => none

/-- The date at the start. -/
def takeDate (cs : List Char) : Option ((Nat × Nat × Nat) × List Char) := do
  let (year, cs) ← fixedNumber 4 0 9999 cs
  let (month, cs) ← fixedNumber 2 1 12 (← takeChar '-' cs)
  let (day, cs) ← fixedNumber 2 1 31 (← takeChar '-' cs)
  return ((year, month, day), cs)

/-- The millionths of a second that the digits of a fraction stand for. -/
def micros (ds : List Char) : Nat :=
  ((ds ++ List.replicate 6 '0').take 6).foldl (fun n d => n * 10 + (d.toNat - '0'.toNat)) 0

/-- The time of day at the start. -/
def takeTime (cs : List Char) : Option (Time × List Char) := do
  let (hour, cs) ← fixedNumber 2 0 23 cs
  let (minute, cs) ← fixedNumber 2 0 59 (← takeChar ':' cs)
  let (second, cs) ← fixedNumber 2 0 59 (← takeChar ':' cs)
  let ds := match cs with
    | '.' :: rest => rest.takeWhile Char.isDigit
    | _ => []
  let behind := if ds = [] then cs else cs.drop (ds.length + 1)
  return (⟨hour, minute, second, micros ds⟩, behind)

/-- The offset from universal time at the start, in seconds. -/
def takeOffset (cs : List Char) : Option (Int × List Char) := do
  match cs with
  | [] => none
  | c :: cs =>
    if c = 'Z' ∨ c = 'z' then return (0, cs)
    if c ≠ '+' ∧ c ≠ '-' then none
    let (hours, cs) ← fixedNumber 2 0 23 cs
    let (minutes, cs) ← fixedNumber 2 0 59 (← takeChar ':' cs)
    let size : Int := hours * 3600 + minutes * 60
    return (if c = '-' then -size else size, cs)

/-- The time of day behind a date, with its separator. -/
def takeClock : List Char → Option (Time × List Char)
  | c :: cs => if c = 'T' ∨ c = 't' ∨ c = ' ' then takeTime cs else none
  | [] => none

/-- Reads a date or time, if one stands at the start. -/
def readMoment? (cs : List Char) : Option (Taken Moment) :=
  match takeDate cs with
  | some ((year, month, day), rest) =>
    some <| match Moment.date? year month day with
      | .error _ => refuse
      | .ok date =>
        match takeClock rest with
        | none => .ok (.date date, rest)
        | some (time, rest) =>
          match takeOffset rest with
          | none => .ok (.dateTime date time none, rest)
          | some (offset, rest) => .ok (.dateTime date time (some ⟨offset, none⟩), rest)
  | none => (takeTime cs).map fun r => .ok (.time r.1, r.2)

/-- The digits at the start that satisfy a test, with single underscores between them. -/
def takeDigits (test : Char → Bool) : List Char → List Char
  | [] => []
  | '_' :: _ => []
  | [c] => if test c then [c] else []
  | c :: '_' :: d :: rest =>
    if test c then if test d then c :: '_' :: takeDigits test (d :: rest) else [c] else []
  | c :: rest => if test c then c :: takeDigits test rest else []

/-- The integer that digits in a base stand for. -/
def integer (base : Nat) (ds : List Char) : Except Fault Value :=
  match Numeral.integer? base (Text.ofChars ds) with
  | .ok n => .ok (.int n)
  | .error fault => .error (.numeral fault)

/-- Reads an integer with a mark for its base, if one stands at the start. -/
def readBased? (cs : List Char) : Option (Taken Value) :=
  let based (base : Nat) (test : Char → Bool) (rest : List Char) : Option (Taken Value) :=
    match takeDigits test rest with
    | [] => none
    | ds => some ((integer base ds).map fun v => (v, rest.drop ds.length))
  match cs with
  | '0' :: 'x' :: rest => based 16 (fun c => (hexNumber? [c]).isSome) rest
  | '0' :: 'o' :: rest => based 8 (fun c => '0' ≤ c && c ≤ '7') rest
  | '0' :: 'b' :: rest => based 2 (fun c => c = '0' || c = '1') rest
  | _ => none

/-- The sign at the start. -/
def takeSign : List Char → List Char × List Char
  | '+' :: cs => (['+'], cs)
  | '-' :: cs => (['-'], cs)
  | cs => ([], cs)

/-- The fraction at the start, with its point. -/
def takeFraction : List Char → List Char
  | '.' :: rest =>
    match takeDigits Char.isDigit rest with
    | [] => []
    | ds => '.' :: ds
  | _ => []

/-- The exponent at the start, with its letter. -/
def takeExponent : List Char → List Char
  | [] => []
  | e :: rest =>
    if e = 'e' ∨ e = 'E' then
      let (sign, body) := takeSign rest
      match takeDigits Char.isDigit body with
      | [] => []
      | ds => e :: sign ++ ds
    else []

/-- Reads a decimal number, if one stands at the start. -/
def readDecimal? (cs : List Char) : Option (Taken Value) :=
  let (sign, body) := takeSign cs
  let whole := match body with
    | '0' :: _ => ['0']
    | body => takeDigits Char.isDigit body
  if whole = [] then none
  else
    let rest := body.drop whole.length
    let fraction := takeFraction rest
    let rest := rest.drop fraction.length
    let exponent := takeExponent rest
    let rest := rest.drop exponent.length
    some <|
      if fraction = [] ∧ exponent = [] then (integer 10 (sign ++ whole)).map fun v => (v, rest)
      else match Numeral.double? (Text.ofChars (sign ++ whole ++ fraction ++ exponent)) with
        | .ok x => .ok (.double x, rest)
        | .error fault => .error (.numeral fault)

/-- The words that are values. -/
def words : List (String × Value) :=
  [("true", .bool true), ("false", .bool false)]

/-- The words that are numbers. -/
def numberWords : List (String × Value) :=
  [("inf", .double (.infinite false)), ("+inf", .double (.infinite false)),
   ("-inf", .double (.infinite true)), ("nan", .double .nan), ("+nan", .double .nan),
   ("-nan", .double .nan)]

/-- Reads one of several words, if it stands at the start. -/
def readWord? (ws : List (String × Value)) (cs : List Char) : Option (Taken Value) :=
  (ws.find? fun w => w.1.toList.isPrefixOf cs).map fun w => .ok (w.2, cs.drop w.1.length)

/-- Reads a truth value, date, time or number. -/
def readPlain (cs : List Char) : Taken Value :=
  let moment? := (readMoment? cs).map fun r => r.map fun r => (Value.moment r.1, r.2)
  ((readWord? words cs).or <| moment?.or <| (readBased? cs).or <| (readDecimal? cs).or
    (readWord? numberWords cs)).getD refuse

end Toml

end StyleImport
