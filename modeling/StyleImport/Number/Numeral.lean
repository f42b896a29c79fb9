import StyleImport.Number.Double
import StyleImport.Text.Blank
import StyleImport.Text.DecimalDigit
import StyleImport.Text.Quoted

/-!
# Numerals

Reading integers and floating-point numbers from text that stands alone, such as a scalar with an
explicit tag. Blanks around the numeral are ignored, a sign may come first, a marker for the base
may stand behind it, single underscores may stand between digits, and the decimal digits of every
script are digits.

## Main definitions

- `Numeral.integer?`: an integer numeral in some base.
- `Numeral.double?`: a decimal numeral with a fraction, an exponent, or the name of a special
  number.
-/

namespace StyleImport

namespace Numeral

/-- The greatest number of decimal digits of an integer that is read or written. -/
def digitLimit : Nat := 4300

/-- The least size of an integer with more decimal digits than are written. -/
def writtenBound : Nat := Double.pow10 digitLimit

/-- Tells whether an integer can be written. -/
def isWritable (n : Int) : Bool := n.natAbs < writtenBound

/-- The wording for an integer that cannot be written. -/
def unwritableMessage : Text :=
  "Exceeds the limit (" ++ Text.ofNat digitLimit
    ++ " digits) for integer string conversion; "
    ++ "use sys.set_int_max_str_digits() to increase the limit"

/-- The bases in which numerals of any length are read. -/
def unlimitedBases : List Nat := [2, 4, 8, 16, 32]

/-- Why an integer numeral is not read. -/
inductive Fault
  /-- The text is no integer numeral in the base. -/
  | malformed (base : Nat) (text : Text)
  /-- The numeral has more decimal digits than the limit. -/
  | tooLong (digits : Nat)
  /-- The text is no floating-point numeral. -/
  | malformedDouble (text : Text)
deriving DecidableEq

/-- The value of a digit in any base up to 36. -/
def digit? (c : CodePoint) : Option Nat :=
  match c.decimalDigit? with
  | some n => some n
  | none =>
    match c with
    | .scalar c =>
      if 'a' ≤ c ∧ c ≤ 'z' then some (c.toNat - 'a'.toNat + 10)
      else if 'A' ≤ c ∧ c ≤ 'Z' then some (c.toNat - 'A'.toNat + 10)
      else none
    | .surrogate _ => none

/-- Takes a sign off a text. -/
def sign : Text → Bool × Text
  | .scalar '-' :: t => (true, t)
  | .scalar '+' :: t => (false, t)
  | t => (false, t)

/-- The letter in the marker for a base, in its small form. -/
def markerLetter? (base : Nat) : Option Char :=
  ([(2, 'b'), (8, 'o'), (16, 'x')].find? (·.1 = base)).map (·.2)

/-- Takes the marker for a base off a text, if it is there: a zero and a letter. An underscore may
stand behind it. -/
def dropMarker (base : Nat) : Text → Text
  | .scalar '0' :: .scalar c :: t =>
    if markerLetter? base = some c.toLower then
      match t with
      | .scalar '_' :: t => t
      | t => t
    else .scalar '0' :: .scalar c :: t
  | t => t

/-- The digits of a text in a base. A single underscore may stand between two digits, and before
the first one if `lead` is set. -/
def digits? (base : Nat) (lead : Bool) : Text → Option (List Nat)
  | [] => some []
  | .scalar '_' :: c :: t => if lead then digits? base false (c :: t) else none
  | [.scalar '_'] => none
  | c :: t => do
    let d ← digit? c
    if d < base then (digits? base true t).map (d :: ·) else none

/-- The number with these digits in a base. -/
def ofDigits (base : Nat) (ds : List Nat) : Nat := ds.foldl (fun n d => n * base + d) 0

/-- Tells whether a code point may stand among the digits of a numeral in a base. -/
def isDigitPlace (base : Nat) (c : CodePoint) : Bool :=
  c = .scalar '_' || (digit? c).any (· < base)

/-- An integer numeral in some base. The digits are counted before what stands behind them is
looked at. -/
def integer? (base : Nat) (text : Text) : Except Fault Int :=
  let (negative, signless) := sign text.strip
  let body := dropMarker base signless
  let front := body.takeWhile (isDigitPlace base)
  match front, digits? base false front with
  | _ :: _, some ds =>
    if ds.length > digitLimit ∧ !unlimitedBases.contains base then .error (.tooLong ds.length)
    else if front.length < body.length then .error (.malformed base text)
    else
      let size : Int := ofDigits base ds
      .ok (if negative then -size else size)
  | _, _ => .error (.malformed base text)

/-- The digits at the front of a text, with single underscores between them, and the rest. -/
def leadingDigits (lead : Bool) : Text → List Nat × Text
  | [] => ([], [])
  | .scalar '_' :: c :: t =>
    if lead ∧ c.decimalDigit?.isSome then leadingDigits false (c :: t)
    else ([], .scalar '_' :: c :: t)
  | c :: t =>
    match c.decimalDigit? with
    | some d =>
      let (ds, rest) := leadingDigits true t
      (d :: ds, rest)
    | none => ([], c :: t)

/-- The exponent at the end of a numeral. -/
def exponent? : Text → Option Int
  | [] => some 0
  | c :: t =>
    if c = .scalar 'e' ∨ c = .scalar 'E' then
      let (negative, body) := sign t
      match leadingDigits false body with
      | (d :: ds, []) =>
        let size : Int := ofDigits 10 (d :: ds)
        some (if negative then -size else size)
      | _ => none
    else none

/-- A floating-point numeral. -/
def double? (text : Text) : Except Fault Double :=
  let (negative, body) := sign text.strip
  let name := body.toLowerAscii
  if name = "inf" ∨ name = "infinity" then .ok (.infinite negative)
  else if name = "nan" then .ok .nan
  else
    let (whole, rest) := leadingDigits false body
    let (fraction, tail) := match rest with
      | .scalar '.' :: t => leadingDigits false t
      | t => ([], t)
    match whole ++ fraction, exponent? tail with
    | d :: ds, some e => .ok (.ofDecimal negative (ofDigits 10 (d :: ds)) (e - fraction.length))
    | _, _ => .error (.malformedDouble text)

/-- The number of characters of a malformed integer numeral that are shown. -/
def shownLength : Nat := 200

/-- The wording of a fault. -/
def Fault.message : Fault → Text
  | malformed base text =>
    "invalid literal for int() with base " ++ Text.ofNat base ++ ": "
      ++ text.quoted.take shownLength
  | tooLong n =>
    "Exceeds the limit (" ++ Text.ofNat digitLimit
      ++ " digits) for integer string conversion: value has " ++ Text.ofNat n
      ++ " digits; use sys.set_int_max_str_digits() to increase the limit"
  | malformedDouble text => "could not convert string to float: " ++ text.quoted

end Numeral

end StyleImport
