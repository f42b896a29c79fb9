import StyleImport.Yaml.Scalar.Block
import StyleImport.Yaml.Scalar.Plain
import StyleImport.Yaml.Token.Property

/-!
# From a document to tokens

A document is read from left to right. Outside of brackets, a token that starts in a column to the
right of the enclosing block opens a block, and one further to the left closes the blocks that it
leaves.

Whether a scalar or bracket is a key shows only when a colon follows it on the same line. Each
place where a key may have started is kept until then, one for each depth of brackets; the token
before the key is put in later. A place at the start of a line of a mapping must turn out to be a
key.

## Main definitions

- `Yaml.Lexer.State`: the tokens so far and what is open.
- `Yaml.Lexer.fetch`: reading the next token.
- `Yaml.tokens`: the tokens of a document up to the end or the first fault.
-/

namespace StyleImport

namespace Yaml

namespace Lexer

/-- A place where a key may have started. -/
structure OpenKey where
  /-- The depth of brackets. -/
  depth : Nat
  /-- The number of tokens before it. -/
  token : Nat
  /-- Its place in the document. -/
  index : Nat
  /-- Its line. -/
  line : Nat
  /-- Its column. -/
  column : Nat
  /-- Tells whether it must turn out to be a key. -/
  required : Bool

/-- The tokens so far and what is open. -/
structure State where
  /-- The place of the next token. -/
  place : Cursor
  /-- The tokens so far, the last one first. -/
  tokens : List Token
  /-- The columns of the open blocks, the innermost one first. -/
  blocks : List Nat
  /-- The open brackets and braces, the innermost one first. -/
  brackets : List Token
  /-- Tells whether a key may start at the next token. -/
  keyAllowed : Bool
  /-- The places where a key may have started. -/
  keys : List OpenKey
  /-- Tells whether the rules of the older version hold. -/
  old : Bool
  /-- Tells whether the end has been reached. -/
  done : Bool

namespace State

/-- The state at the start of a document. A byte order mark there is skipped. -/
def start (cs : List Char) : State :=
  let p := Cursor.start cs
  let p := if p.peek 0 = '\uFEFF' then p.next else p
  ⟨p, [], [], [], true, [], false, false⟩

/-- Tells whether the next token stands inside brackets. -/
def inFlow (s : State) : Bool := !s.brackets.isEmpty

/-- Adds a token. -/
def push (t : Token) (s : State) : State := { s with tokens := t :: s.tokens }

/-- Adds a token and goes on behind the next character. -/
def pushChar (t : Token) (s : State) : State :=
  { s with tokens := t :: s.tokens, place := s.place.next }

/-- Puts a token before those from the given number on. -/
def insert (t : Token) (number : Nat) (s : State) : State :=
  let behind := s.tokens.length - number
  { s with tokens := s.tokens.take behind ++ t :: s.tokens.drop behind }

/-- Closes the blocks that lie to the right of a column. -/
def closeBlocks (column : Nat) (s : State) : State :=
  let closed := s.blocks.takeWhile (column < ·)
  { s with
    tokens := closed.map (fun _ => .blockEnd) ++ s.tokens
    blocks := s.blocks.drop closed.length }

/-- Closes all blocks. -/
def closeAllBlocks (s : State) : State :=
  if s.inFlow then s
  else { s with tokens := s.blocks.map (fun _ => .blockEnd) ++ s.tokens, blocks := [] }

/-- Tells whether a column lies to the right of the innermost block. -/
def opensBlock (column : Nat) (s : State) : Bool :=
  match s.blocks with
  | [] => true
  | innermost :: _ => innermost < column

/-- Opens a block at the next token, if it lies to the right of the innermost one. -/
def openBlock (t : Token) (s : State) : State :=
  if s.opensBlock s.place.column then
    { s with tokens := t :: s.tokens, blocks := s.place.column :: s.blocks }
  else s

/-- Tells whether a place can no longer be that of a key: the line has changed, or too many
characters stand between. -/
def isStale (s : State) (k : OpenKey) : Bool :=
  k.line ≠ s.place.line || 1024 < s.place.index - k.index

/-- Gives up the places that can no longer be those of keys. -/
def dropStale (s : State) : Except Fault State :=
  if s.keys.any fun k => s.isStale k && k.required then .error .malformed
  else .ok { s with keys := s.keys.filter fun k => !s.isStale k }

/-- Gives up the place at the current depth. -/
def dropKey (s : State) : Except Fault State :=
  let here (k : OpenKey) : Bool := k.depth = s.brackets.length
  if s.keys.any fun k => here k && k.required then .error .malformed
  else .ok { s with keys := s.keys.filter fun k => !here k }

/-- Keeps the next token as the start of a key, if one may start there. -/
def keepKey (s : State) : Except Fault State :=
  if s.keyAllowed then
    s.dropKey.map fun s =>
      let required := !s.inFlow && s.blocks.head? = some s.place.column
      let key := ⟨s.brackets.length, s.tokens.length, s.place.index, s.place.line,
        s.place.column, required⟩
      { s with keys := key :: s.keys }
  else .ok s

/-- Skips blanks, comments and line ends. -/
def skipToToken : Nat → State → State
  | 0, s => s
  | fuel + 1, s =>
    let p := (s.place.skip fun c => c = ' ' || (s.inFlow && c = '\t')).skipComment
    match p.lineBreak with
    | none => { s with place := p }
    | some (_, q) =>
      skipToToken fuel { s with place := q, keyAllowed := s.keyAllowed || !s.inFlow }

end State

/-- Tells whether a colon at the next place stands before a value. A token at which a key may
still start is `held` back, and so is all behind it. -/
def startsValue (held : Bool) (s : State) : Bool :=
  let loose := match s.brackets with
    | [] => false
    | bracket :: _ =>
      s.old || !(bracket = .flowSequenceStart || (held && s.tokens.head? = some .value))
  loose || isWordEnd (s.place.peek 1)

/-- The characters that no plain scalar starts with in general. -/
def indicators : List Char := "-?:,[]\x7b\x7d#&*!|>'\"%@`".toList

/-- Tells whether a plain scalar starts at the next place. -/
def startsPlain (s : State) : Bool :=
  let c := s.place.peek 0
  let behind := s.place.peek 1
  !(c = endMark || isBlank c || isBreak c || indicators.contains c)
    || (!s.old && c = ':' && s.inFlow && !isBlank behind)
    || (!isWordEnd behind && (c = '-' || (!s.inFlow && (c = '?' || c = ':'))))

/-- Reads the start of a document or its end. -/
def fetchMarker (t : Token) (s : State) : Except Fault State :=
  s.closeAllBlocks.dropKey.map fun s =>
    { s with tokens := t :: s.tokens, place := s.place.forward 3, keyAllowed := false }

/-- Reads a directive. -/
def fetchDirective (s : State) : Except Fault State := do
  let s ← s.closeAllBlocks.dropKey
  let (d, p) ← Property.directive s.old s.place
  let old := match d with
    | .version major minor => major = 1 && minor = 1
    | _ => s.old
  return { s with tokens := .directive d :: s.tokens, place := p, keyAllowed := false, old := old }

/-- Reads an opening bracket or brace. -/
def fetchOpening (t : Token) (s : State) : Except Fault State :=
  s.keepKey.map fun s => { s.pushChar t with brackets := t :: s.brackets, keyAllowed := true }

/-- Reads a closing bracket or brace. -/
def fetchClosing (t : Token) (s : State) : Except Fault State :=
  s.dropKey.map fun s =>
    { s.pushChar t with brackets := s.brackets.drop 1, keyAllowed := false }

/-- Reads a comma between items. -/
def fetchComma (s : State) : Except Fault State :=
  State.dropKey { s with keyAllowed := true } |>.map (State.pushChar .flowEntry)

/-- Reads the mark before an item of an indented list. -/
def fetchEntry (s : State) : Except Fault State :=
  if !s.inFlow ∧ !s.keyAllowed then .error .malformed
  else
    let s := if s.inFlow then s else s.openBlock .blockSequenceStart
    State.dropKey { s with keyAllowed := true } |>.map (State.pushChar .blockEntry)

/-- Reads the mark before a key. -/
def fetchKey (s : State) : Except Fault State :=
  if !s.inFlow ∧ !s.keyAllowed then .error .malformed
  else
    let s := if s.inFlow then s else s.openBlock .blockMappingStart
    State.dropKey { s with keyAllowed := !s.inFlow } |>.map (State.pushChar .key)

/-- Reads the mark before a value. If a key may have started at this depth, it did. -/
def fetchValue (s : State) : Except Fault State :=
  match s.keys.find? (·.depth = s.brackets.length) with
  | some key =>
    let s := { s with keys := s.keys.filter (·.depth ≠ s.brackets.length), keyAllowed := false }
    let s := s.insert .key key.token
    let s :=
      if !s.inFlow ∧ s.opensBlock key.column then
        { s.insert .blockMappingStart key.token with blocks := key.column :: s.blocks }
      else s
    .ok (s.pushChar .value)
  | none =>
    if !s.inFlow ∧ !s.keyAllowed then .error .malformed
    else
      let s := if s.inFlow then s else s.openBlock .blockMappingStart
      State.dropKey { s with keyAllowed := !s.inFlow } |>.map (State.pushChar .value)

/-- Reads a token that may be a key, with the given reading function. -/
def fetchNode (read : Cursor → Except Fault (Token × Cursor)) (s : State) : Except Fault State := do
  let s ← s.keepKey
  let (t, p) ← read s.place
  return { s with tokens := t :: s.tokens, place := p, keyAllowed := false }

/-- Reads a block scalar. -/
def fetchBlock (s : State) : Except Fault State := do
  let s ← State.dropKey { s with keyAllowed := true }
  let (t, p) ← Block.read s.blocks.head? s.place
  return { s with tokens := .scalar t false :: s.tokens, place := p }

/-- Reads a plain scalar. A key may start behind it if it ends behind a line end. -/
def fetchPlain (s : State) : Except Fault State := do
  let s ← s.keepKey
  let indent := match s.blocks with
    | [] => 0
    | innermost :: _ => innermost + 1
  let (cs, broken, p) := Plain.read ⟨s.inFlow, indent, s.old⟩ s.place
  return { s with
    tokens := .scalar (Text.ofChars cs) true :: s.tokens, place := p, keyAllowed := broken }

/-- Reads the end of the document. -/
def fetchEnd (s : State) : Except Fault State :=
  s.closeAllBlocks.dropKey.map fun s => { s with tokens := .streamEnd :: s.tokens, done := true }

/-- Reads the next token. The places that can no longer be those of keys have been given up. -/
def fetch (s : State) : Except Fault State := do
  let held := !s.keys.isEmpty
  let s ← (s.skipToToken (s.place.rest.length + 1)).dropStale
  let s := if s.inFlow then s else s.closeBlocks s.place.column
  let p := s.place
  let first := p.column = 0
  if p.rest = [] then fetchEnd s
  else match p.peek 0 with
    | '%' => if first then fetchDirective s else throw .malformed
    | '[' => fetchOpening .flowSequenceStart s
    | '\x7b' => fetchOpening .flowMappingStart s
    | ']' => fetchClosing .flowSequenceEnd s
    | '\x7d' => fetchClosing .flowMappingEnd s
    | ',' => fetchComma s
    | '*' => fetchNode (fun p => (Property.anchorName p).map fun r => (.alias r.1, r.2)) s
    | '&' => fetchNode (fun p => (Property.anchorName p).map fun r => (.anchor r.1, r.2)) s
    | '!' => fetchNode (fun p => (Property.tag s.old p).map fun r => (.tag r.1, r.2)) s
    | '\'' => fetchNode (fun p => (Quoted.read p).map fun r => (.scalar r.1 false, r.2)) s
    | '"' => fetchNode (fun p => (Quoted.read p).map fun r => (.scalar r.1 false, r.2)) s
    | c =>
      if c = '-' ∧ first ∧ p.atMarker '-' then fetchMarker .documentStart s
      else if c = '.' ∧ first ∧ p.atMarker '.' then fetchMarker .documentEnd s
      else if c = '-' ∧ isWordEnd (p.peek 1) then fetchEntry s
      else if c = '?' ∧ (s.inFlow ∨ isWordEnd (p.peek 1)) then fetchKey s
      else if c = ':' ∧ startsValue held s then fetchValue s
      else if (c = '|' ∨ c = '>') ∧ !s.inFlow then fetchBlock s
      else if startsPlain s then fetchPlain s
      else throw .malformed

/-- The number of tokens before the first one that may still become a key. -/
def settled (s : State) : Nat := s.keys.foldl (fun n key => min n key.token) s.tokens.length

/-- Reads tokens up to the end or the first fault. Before a fault only those tokens count that were
settled when the token with the fault was asked for; of the token before it these are `count`. -/
def run : Nat → Nat → State → List Token × Option Fault
  | 0, _, s => (s.tokens.reverse, some .malformed)
  | fuel + 1, count, s =>
    if s.done then (s.tokens.reverse, none)
    else match s.dropStale with
      | .error fault => (s.tokens.reverse.take count, some fault)
      | .ok s =>
        match fetch s with
        | .error fault => (s.tokens.reverse.take (settled s), some fault)
        | .ok next => run fuel (settled s) next

end Lexer

/-- The tokens of a document up to the end or the first fault. -/
def tokens (cs : List Char) : List Token × Option Fault :=
  Lexer.run (cs.length + 2) 0 (Lexer.State.start cs)

end Yaml

end StyleImport
