import StyleImport.Text

/-!
# Control sequences

A control sequence tells a terminal to move or to change colours. It starts with an escape and an
opening bracket, and ends with the first letter behind its numbers. Text for another reader than a
terminal is shown without them.

## Main definitions

- `Text.sequenceLength`: the length of the control sequence at the start of a text.
- `Text.dropSequences`: a text without control sequences.
-/

namespace StyleImport

namespace Text

/-- Tells whether a code point may stand in the numbers of a control sequence. -/
def isSequenceNumber : CodePoint → Bool
  | .scalar c => c.isDigit || c = ';' || c = '?'
  | .surrogate _ => false

/-- The number of code points of the control sequence at the start of a text; zero, if there is
none. -/
def sequenceLength : Text → Nat
  | .scalar '\x1b' :: .scalar '[' :: t =>
    let numbers := t.takeWhile isSequenceNumber
    match t.drop numbers.length with
    | .scalar c :: _ => if c.isAlpha then numbers.length + 3 else 0
    | _ => 0
  | _ => 0

/-- A text without its first `inside` code points and the control sequences behind them. -/
def dropSequencesFrom (inside : Nat) : Text → Text
  | [] => []
  | c :: t =>
    match inside, sequenceLength (c :: t) with
    | 0, 0 => c :: dropSequencesFrom 0 t
    | 0, n + 1 => dropSequencesFrom n t
    | n + 1, _ => dropSequencesFrom n t

/-- A text without control sequences. -/
def dropSequences (t : Text) : Text := dropSequencesFrom 0 t

end Text

end StyleImport
