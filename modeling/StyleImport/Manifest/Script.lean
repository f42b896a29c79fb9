import StyleImport.Manifest.Script.Content
import StyleImport.Value

/-!
# Script manifests

A script manifest is a list of assignments of literals to names, with comments and blank lines
between them. What a script says is fixed in two steps: first all of it is read, and a breach of
the grammar anywhere is a fault; then the literals are worked out in their order.

## Main definitions

- `Script.Literal`: literals.
- `Script.Literal.value`: the value of a literal.
- `Script.assignments`: the assignments of a script.
- `Script.lookup`: the value that a script gives a name.
-/

namespace StyleImport

namespace Script

/-- A literal. -/
inductive Literal
  /-- A literal that holds no others. -/
  | atom (v : Value)
  /-- A list. -/
  | list (items : List Literal)
  /-- A tuple. -/
  | tuple (items : List Literal)
  /-- A mapping. -/
  | map (entries : List (Literal × Literal))
  /-- A quotient by zero. -/
  | overZero
deriving Inhabited

/-- A breach of the grammar. -/
inductive Breach
  /-- Something else should stand here. -/
  | unexpected
  /-- An assignment is indented. -/
  | indented
  /-- An integer starts with zeros. -/
  | leadingZeros
  /-- A decimal number is not complete. -/
  | badDecimal
deriving DecidableEq

/-- The words of a breach. -/
def Breach.words : Breach → Text
  | unexpected => "SyntaxError: invalid syntax"
  | indented => "IndentationError: unexpected indent"
  | leadingZeros =>
    "SyntaxError: leading zeros in decimal integer literals are not permitted; "
      ++ "use an 0o prefix for octal integers"
  | badDecimal => "SyntaxError: invalid decimal literal"

/-- What is wrong with a script. -/
inductive Fault
  /-- The bytes have no source. -/
  | source (fault : SourceFault)
  /-- A name or text on a line cannot be read. -/
  | unreadable (fault : ContentFault) (line : Nat)
  /-- The line breaks the grammar. -/
  | malformed (breach : Breach) (line : Nat)
  /-- An integer on a line has too many digits. -/
  | tooLong (digits line : Nat)
  /-- Too many brackets are open on a line. -/
  | tooDeep (line : Nat)
  /-- A value of a kind that cannot be a key is one. -/
  | unfitKey (kind : String)
  /-- A quotient by zero is to be worked out. -/
  | division
deriving DecidableEq

/-- The wording of a fault, which names the file for breaches of the grammar. -/
def Fault.message (file : Text) : Fault → Text
  | source fault => "SyntaxError: " ++ fault.message (place 0)
  | unreadable fault line => "SyntaxError: " ++ fault.message ++ place line
  | malformed breach line => breach.words ++ place line
  | tooLong digits line =>
    "SyntaxError: " ++ (Numeral.Fault.tooLong digits).message
      ++ " - Consider hexadecimal for huge integer literals to avoid decimal conversion limits."
      ++ place line
  | tooDeep line => "SyntaxError: too many nested parentheses" ++ place line
  | unfitKey kind => "TypeError: unhashable type: '" ++ Text.ofString kind ++ "'"
  | division => "ZeroDivisionError: division by zero"
where
  /-- The place of a fault in the file. -/
  place (line : Nat) : Text := " (" ++ file ++ ", line " ++ Text.ofNat line ++ ")"

/-- Why a reading function stops. -/
inductive Stop
  /-- The rest of the script breaks the grammar at its start. -/
  | malformed (breach : Breach) (rest : List Char)
  /-- An integer before the rest of the script has too many digits. -/
  | tooLong (digits : Nat) (rest : List Char)
  /-- A bracket at the start of the rest stands inside too many others. -/
  | tooDeep (rest : List Char)
  /-- A name or text before the rest cannot be read. -/
  | unreadable (fault : ContentFault) (rest : List Char)

/-- The result of a reading function: what is read and the characters behind it. -/
abbrev Taken (α : Type) := Except Stop (α × List Char)

/-- Skips spaces, tabs and line ends behind a backslash. Inside brackets, skips line ends and
comments too. -/
def skipGap (inside : Bool) : Nat → List Char → List Char
  | 0, cs => cs
  | fuel + 1, cs =>
    match cs with
    | ' ' :: rest => skipGap inside fuel rest
    | '\t' :: rest => skipGap inside fuel rest
    | '\x0c' :: rest => skipGap inside fuel rest
    | '\\' :: '\n' :: rest => skipGap inside fuel rest
    | '\n' :: rest => if inside then skipGap inside fuel rest else cs
    | '#' :: rest => if inside then skipGap inside fuel (rest.dropWhile (· ≠ '\n')) else cs
    | cs => cs

/-- Skips all that may stand between two parts of a literal. -/
def skip (inside : Bool) (cs : List Char) : List Char := skipGap inside cs.length cs

/-- Tells whether a character may stand in a name. -/
def isNameChar (c : Char) : Bool := c.isAlphanum || c = '_' || 0x80 ≤ c.toNat

/-- How a text is quoted. -/
structure Quoting where
  /-- The quote. -/
  mark : Char
  /-- Tells whether three quotes stand at each end. -/
  triple : Bool

/-- Reads the bytes of a text up to its closing quotes. -/
def readBody (q : Quoting) : Nat → List Char → Taken (List Char)
  | 0, cs => .error (.malformed .unexpected cs)
  | _ + 1, [] => .error (.malformed .unexpected [])
  | fuel + 1, c :: rest =>
    let goOn (front : List Char) (cs : List Char) : Taken (List Char) :=
      (readBody q fuel cs).map fun r => (front ++ r.1, r.2)
    if c = q.mark ∧ !q.triple then .ok ([], rest)
    else if q.triple ∧ [q.mark, q.mark, q.mark].isPrefixOf (c :: rest) then .ok ([], rest.drop 2)
    else if c = '\n' ∧ !q.triple then .error (.malformed .unexpected rest)
    else match c, rest with
      | '\\', d :: rest => goOn [c, d] rest
      | c, rest => goOn [c] rest

/-- Takes the letter that marks the kind of a text off. -/
def takeMark : List Char → Option (Bool × List Char)
  | c :: '"' :: rest => mark c ('"' :: rest)
  | c :: '\'' :: rest => mark c ('\'' :: rest)
  | _ => none
where
  /-- What the letter before a quote says, if it says something. -/
  mark (c : Char) (cs : List Char) : Option (Bool × List Char) :=
    if c = 'r' ∨ c = 'R' then some (true, cs)
    else if c = 'u' ∨ c = 'U' then some (false, cs)
    else none

/-- Tells whether a quote stands at the start. -/
def startsQuote : List Char → Bool
  | c :: _ => c = '"' || c = '\''
  | [] => false

/-- Reads a text, from its opening quotes on. -/
def readQuoted (raw : Bool) (cs : List Char) : Taken Quoted :=
  match cs with
  | [] => .error (.malformed .unexpected cs)
  | mark :: rest =>
    let read := if [mark, mark, mark].isPrefixOf cs then
        readBody ⟨mark, true⟩ (rest.length + 1) (rest.drop 2)
      else readBody ⟨mark, false⟩ (rest.length + 1) rest
    read.map fun r => (⟨raw, r.1⟩, r.2)

/-- Reads a text, if one stands at the start. -/
def readQuoted? (cs : List Char) : Option (Taken Quoted) :=
  if startsQuote cs then some (readQuoted false cs)
  else (takeMark cs).map fun r => readQuoted r.1 r.2

/-- Reads the texts that follow a text and belong to it. -/
def readFurther (inside : Bool) : Nat → List Char → Taken (List Quoted)
  | 0, cs => .ok ([], cs)
  | fuel + 1, cs =>
    match readQuoted? (skip inside cs) with
    | none => .ok ([], cs)
    | some (.error stop) => .error stop
    | some (.ok (q, rest)) => (readFurther inside fuel rest).map fun r => (q :: r.1, r.2)

/-- Reads texts that stand one behind the other, if one stands at the start. -/
def readText? (inside : Bool) (cs : List Char) : Option (Taken Text) :=
  (readQuoted? cs).map fun
    | .error stop => .error stop
    | .ok (q, rest) =>
      match readFurther inside rest.length rest with
      | .error stop => .error stop
      | .ok (qs, rest) =>
        match contents (q :: qs) with
        | .error fault => .error (.unreadable fault (skip inside rest))
        | .ok t => .ok (t, rest)

/-- Tells whether a character may stand in the digits of a number. -/
def isDigitChar (c : Char) : Bool := c.isAlphanum || c = '_'

/-- Reads an integer in a base. -/
def readInteger (base : Nat) (digits rest : List Char) : Taken Value :=
  match Numeral.integer? base (Text.ofChars digits) with
  | .ok n => .ok (.int n, rest)
  | .error (.tooLong n) => .error (.tooLong n rest)
  | .error _ => .error (.malformed (if base = 10 then .badDecimal else .unexpected) rest)

/-- Takes digits and underscores off. -/
def takeDigits (cs : List Char) : List Char × List Char :=
  cs.span fun c => c.isDigit || c = '_'

/-- Takes an exponent off. -/
def takeExponent (cs : List Char) : List Char × List Char :=
  match cs with
  | e :: rest =>
    if e = 'e' ∨ e = 'E' then
      let (sign, rest) := match rest with
        | '+' :: rest => (['+'], rest)
        | '-' :: rest => (['-'], rest)
        | rest => ([], rest)
      let (digits, rest) := takeDigits rest
      (e :: sign ++ digits, rest)
    else ([], cs)
  | [] => ([], cs)

/-- Reads a decimal number without its sign. -/
def readDecimal (cs : List Char) : Taken Value :=
  let (whole, rest) := takeDigits cs
  let (fraction, rest) := match rest with
    | '.' :: rest =>
      let (ds, rest) := takeDigits rest
      ('.' :: ds, rest)
    | rest => ([], rest)
  let (exponent, rest) := takeExponent rest
  if fraction = [] ∧ exponent = [] then
    if whole.head? = some '0' ∧ whole.any (fun c => c ≠ '0' && c ≠ '_') then
      .error (.malformed .leadingZeros cs)
    else readInteger 10 whole rest
  else match Numeral.double? (Text.ofChars (whole ++ fraction ++ exponent)) with
    | .ok x => .ok (.double x, rest)
    | .error _ => .error (.malformed .badDecimal cs)

/-- Reads a number without its sign. -/
def readMagnitude (cs : List Char) : Taken Value :=
  let based (base : Nat) (cs : List Char) : Taken Value :=
    let (digits, rest) := cs.span isDigitChar
    readInteger base (if digits.head? = some '_' then digits.drop 1 else digits) rest
  match cs with
  | '0' :: c :: rest =>
    if c = 'x' ∨ c = 'X' then based 16 rest
    else if c = 'o' ∨ c = 'O' then based 8 rest
    else if c = 'b' ∨ c = 'B' then based 2 rest
    else readDecimal cs
  | cs => readDecimal cs

/-- The value with a plus sign. -/
def affirm : Value → Value
  | .bool b => .int b.toNat
  | v => v

/-- The value of opposite sign. -/
def negate : Value → Option Value
  | .int n => some (.int (-n))
  | .double x => some (.double x.negate)
  | .bool b => some (.int (-b.toNat))
  | _ => none

/-- The words that are values. -/
def words : List (String × Value) := [("True", .bool true), ("False", .bool false), ("None", .null)]

/-- Reads a word that is a value. -/
def readWord (cs : List Char) : Taken Value :=
  let word := cs.takeWhile isNameChar
  match nameOf word, words.find? (·.1.toList = word) with
  | .error fault, _ => .error (.unreadable fault cs)
  | .ok _, some (_, v) => .ok (v, cs.drop word.length)
  | .ok _, none => .error (.malformed .unexpected cs)

/-- Tells whether a number starts here. -/
def startsNumber : List Char → Bool
  | '.' :: c :: _ => c.isDigit
  | c :: _ => c.isDigit
  | [] => false

/-- Reads a number or word, with the signs before it. -/
def readSigned : Nat → List Char → Taken Value
  | 0, cs => .error (.malformed .unexpected cs)
  | fuel + 1, cs =>
    match cs with
    | '+' :: rest => (readSigned fuel (skip false rest)).map fun r => (affirm r.1, r.2)
    | '-' :: rest =>
      match readSigned fuel (skip false rest) with
      | .error stop => .error stop
      | .ok (v, behind) =>
        match negate v with
        | some v => .ok (v, behind)
        | none => .error (.malformed .unexpected rest)
    | cs => if startsNumber cs then readMagnitude cs else readWord cs

/-- The greatest number of brackets that may be open at once. -/
def maxDepth : Nat := 200

/-- Tells whether a bracket opens at the start. -/
def opensBracket : List Char → Bool
  | c :: _ => c = '[' || c = '(' || c = '\x7b'
  | [] => false

mutual

/-- Reads a literal inside a number of brackets. The fuel bounds the number of calls inside each
other. -/
def readLiteral : Nat → Nat → List Char → Taken Literal
  | 0, _, cs => .error (.malformed .unexpected cs)
  | fuel + 1, depth, cs =>
    if opensBracket cs && maxDepth ≤ depth then .error (.tooDeep cs)
    else match cs with
    | '[' :: rest =>
      match readItems fuel (depth + 1) ']' (skip true rest) with
      | .error stop => .error stop
      | .ok ((items, _), rest) => .ok (.list items, rest)
    | '(' :: rest =>
      match readItems fuel (depth + 1) ')' (skip true rest) with
      | .error stop => .error stop
      | .ok (([item], false), rest) => .ok (item, rest)
      | .ok ((items, _), rest) => .ok (.tuple items, rest)
    | '\x7b' :: rest =>
      (readPairs fuel (depth + 1) (skip true rest)).map fun r => (.map r.1, r.2)
    | cs =>
      match readText? (0 < depth) cs with
      | some (.error stop) => .error stop
      | some (.ok (t, rest)) => .ok (.atom (.text t), rest)
      | none => (readSigned (cs.length + 1) cs).map fun r => (.atom r.1, r.2)

/-- Reads the items of a list or tuple up to its end, and whether a comma stands among them. -/
def readItems : Nat → Nat → Char → List Char → Taken (List Literal × Bool)
  | 0, _, _, cs => .error (.malformed .unexpected cs)
  | fuel + 1, depth, close, cs =>
    if cs.head? = some close then .ok (([], false), cs.drop 1)
    else match readLiteral fuel depth cs with
      | .error stop => .error stop
      | .ok (item, rest) =>
        match skip true rest with
        | ',' :: rest =>
          (readItems fuel depth close (skip true rest)).map fun r => ((item :: r.1.1, true), r.2)
        | c :: rest =>
          if c = close then .ok (([item], false), rest) else .error (.malformed .unexpected rest)
        | [] => .error (.malformed .unexpected [])

/-- Reads the entries of a mapping up to its end. -/
def readPairs : Nat → Nat → List Char → Taken (List (Literal × Literal))
  | 0, _, cs => .error (.malformed .unexpected cs)
  | _ + 1, _, '\x7d' :: rest => .ok ([], rest)
  | fuel + 1, depth, cs =>
    match readLiteral fuel depth cs with
    | .error stop => .error stop
    | .ok (key, rest) =>
      match skip true rest with
      | ':' :: rest =>
        match readLiteral fuel depth (skip true rest) with
        | .error stop => .error stop
        | .ok (v, rest) =>
          match skip true rest with
          | ',' :: rest =>
            (readPairs fuel depth (skip true rest)).map fun r => ((key, v) :: r.1, r.2)
          | '\x7d' :: rest => .ok ([(key, v)], rest)
          | rest => .error (.malformed .unexpected rest)
      | rest => .error (.malformed .unexpected rest)

end

/-- Reads the literals behind a comma outside of brackets. -/
def readMore : Nat → List Char → Taken (List Literal)
  | 0, cs => .ok ([], cs)
  | fuel + 1, cs =>
    match cs with
    | [] => .ok ([], cs)
    | c :: _ =>
      if c = '\n' ∨ c = '#' then .ok ([], cs)
      else match readLiteral (2 * cs.length + 2) 0 cs with
        | .error stop => .error stop
        | .ok (item, rest) =>
          match skip false rest with
          | ',' :: rest => (readMore fuel (skip false rest)).map fun r => (item :: r.1, r.2)
          | rest => .ok ([item], rest)

/-- Reads the right-hand side of an assignment. -/
def readRight (cs : List Char) : Taken Literal :=
  match readLiteral (2 * cs.length + 2) 0 cs with
  | .error stop => .error stop
  | .ok (item, rest) =>
    match skip false rest with
    | ',' :: rest =>
      (readMore rest.length (skip false rest)).map fun r => (.tuple (item :: r.1), r.2)
    | '/' :: rest =>
      match readSigned (rest.length + 1) (skip false rest) with
      | .error stop => .error stop
      | .ok (.int 0, rest) => .ok (.overZero, rest)
      | .ok (_, rest) => .error (.malformed .unexpected rest)
    | rest => .ok (item, rest)

/-- The indentation of a line, of which `column` columns are read. If lines are joined to it, the
first indentation of them counts. -/
def indentation (column first : Nat) : List Char → Nat
  | ' ' :: rest => indentation (column + 1) first rest
  | '\t' :: rest => indentation ((column / 8 + 1) * 8) first rest
  | '\x0c' :: rest => indentation 0 first rest
  | '\\' :: '\n' :: rest => indentation column (if first = 0 then column else first) rest
  | _ => if first = 0 then column else first

/-- Reads the assignments of a script, where `fresh` tells whether a line starts here. -/
def readAssignments : Nat → Bool → List Char → Except Stop (List (List Char × Literal))
  | 0, _, cs => if cs = [] then .ok [] else .error (.malformed .unexpected cs)
  | fuel + 1, fresh, cs =>
    match skip false cs with
    | [] => .ok []
    | '\n' :: rest => readAssignments fuel true rest
    | '#' :: rest => readAssignments fuel true (rest.dropWhile (· ≠ '\n'))
    | start =>
      let word := start.takeWhile isNameChar
      match nameOf word, skip false (start.drop word.length) with
      | .error fault, _ => .error (.unreadable fault start)
      | .ok (c :: name), '=' :: rest =>
        if fresh && 0 < indentation 0 0 cs then .error (.malformed .indented start)
        else match readRight (skip false rest) with
        | .error stop => .error stop
        | .ok (v, rest) =>
          match skip false rest with
          | [] => .ok [(c :: name, v)]
          | d :: rest =>
            if d = '\n' ∨ d = '#' ∨ d = ';' then
              let rest := if d = '#' then rest.dropWhile (· ≠ '\n') else rest
              (readAssignments fuel (d ≠ ';') rest).map ((c :: name, v) :: ·)
            else .error (.malformed .unexpected (d :: rest))
      | _, rest => .error (.malformed .unexpected rest)

/-- Finds the line of a stop. -/
def Stop.fault (cs : List Char) : Stop → Fault
  | malformed breach rest => .malformed breach (line rest)
  | tooLong digits rest => .tooLong digits (line rest)
  | tooDeep rest => .tooDeep (line rest)
  | unreadable fault rest => .unreadable fault (line rest)
where
  /-- The line of the rest of the script. -/
  line (rest : List Char) : Nat := (cs.take (cs.length - rest.length)).count '\n' + 1

/-- The assignments of a script, or the fault in its grammar. -/
def assignments (cs : List Char) : Except Fault (List (List Char × Literal)) :=
  (readAssignments (cs.length + 1) true cs).mapError (Stop.fault cs)

mutual

/-- The value of a literal. -/
def Literal.value : Literal → Except Fault Value
  | .atom v => .ok v
  | .list items => (values items).map .list
  | .tuple items => (values items).map .tuple
  | .map entries => do
    let es ← pairs entries
    match es.findSome? fun e => e.1.unfitKind? with
    | some kind => throw (.unfitKey kind)
    | none => return .map (Value.putAll es [])
  | .overZero => .error .division

/-- The values of literals. -/
def values : List Literal → Except Fault (List Value)
  | [] => .ok []
  | l :: ls => do return (← l.value) :: (← values ls)

/-- The values of the entries of a mapping. -/
def pairs : List (Literal × Literal) → Except Fault (List (Value × Value))
  | [] => .ok []
  | (k, v) :: rest => do return (← k.value, ← v.value) :: (← pairs rest)

end

/-- The value that the script in the bytes of a file gives a name, if it gives one. -/
def lookup (name : String) (bytes : List UInt8) : Except Fault (Option Value) := do
  let cs ← (source bytes).mapError .source
  let vs ← (← assignments cs).mapM fun a => do return (a.1, ← a.2.value)
  return (vs.reverse.find? (·.1 = name.toList)).map (·.2)

end Script

end StyleImport
