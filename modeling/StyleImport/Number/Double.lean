import StyleImport.Text

/-!
# Binary floating-point numbers

The numbers of 64-bit binary floating point, held as exact values: a finite number is
`mantissa * 2 ^ exponent` with a mantissa below `2 ^ 53` and an exponent of at least `-1074`, and
the mantissa is at least `2 ^ 52` unless the exponent is the least one. Decimal numerals and sums
are rounded to the nearest such number, a tie going to the even mantissa.

## Main definitions

- `Double`: the numbers, with two infinities, one value that is no number, and two zeros.
- `Double.ofRatio`: the number nearest to a quotient.
- `Double.ofDecimal`: the number nearest to `digits * 10 ^ exponent`.
- `Double.toInt?`: the integer that a number is, if it is one.
-/

namespace StyleImport

/-- A number of 64-bit binary floating point. -/
inductive Double
  /-- No number. -/
  | nan
  /-- One of the two infinities. -/
  | infinite (negative : Bool)
  /-- The number `mantissa * 2 ^ exponent`, with its sign. -/
  | finite (negative : Bool) (mantissa : Nat) (exponent : Int)
deriving DecidableEq, Inhabited

/-- The quotient rounded to the nearest integer, a tie going to the even one. -/
def roundHalfEven (num den : Nat) : Nat :=
  let low := num / den
  let twice := 2 * (num % den)
  if twice < den then low
  else if den < twice then low + 1
  else low + low % 2

namespace Double

/-- A power of two. -/
def pow2 (k : Nat) : Nat := Nat.pow 2 k

/-- A power of ten. -/
def pow10 (k : Nat) : Nat := Nat.pow 10 k

/-- Zero, with a sign. -/
def zero (negative : Bool) : Double := finite negative 0 (-1074)

/-- The quotient `num / den * 2 ^ (-shift)` as numerator and denominator. -/
def scaled (num den : Nat) (shift : Int) : Nat × Nat :=
  if 0 ≤ shift then (num, den * pow2 shift.toNat) else (num * pow2 (-shift).toNat, den)

/-- The number nearest to `num / den`, where `den` is positive. -/
def ofRatio (negative : Bool) (num den : Nat) : Double :=
  if num = 0 then zero negative
  else
    let guess : Int := (Nat.log2 num : Int) - Nat.log2 den - 52
    let tried := scaled num den guess
    let exponent := max (-1074) (if tried.1 / tried.2 < pow2 52 then guess - 1 else guess)
    let quotient := scaled num den exponent
    let mantissa := roundHalfEven quotient.1 quotient.2
    if mantissa = pow2 53 then
      if 971 ≤ exponent then infinite negative else finite negative (pow2 52) (exponent + 1)
    else if 971 < exponent then infinite negative
    else finite negative mantissa exponent

/-- The number nearest to `digits * 10 ^ exponent`. Exponents far outside the range are cut off
before any power is taken. -/
def ofDecimal (negative : Bool) (digits : Nat) (exponent : Int) : Double :=
  let size : Int := (Nat.toDigits 10 digits).length
  if digits = 0 then zero negative
  else if 400 < size + exponent then infinite negative
  else if size + exponent < -400 then zero negative
  else if 0 ≤ exponent then ofRatio negative (digits * pow10 exponent.toNat) 1
  else ofRatio negative digits (pow10 (-exponent).toNat)

/-- The number of opposite sign. -/
def negate : Double → Double
  | nan => nan
  | infinite negative => infinite !negative
  | finite negative mantissa exponent => finite (!negative) mantissa exponent

/-- The integer `n` such that the finite number is `n * 2 ^ (-1074)`. -/
def units (negative : Bool) (mantissa : Nat) (exponent : Int) : Int :=
  let size : Int := mantissa * pow2 (exponent + 1074).toNat
  if negative then -size else size

/-- The sum, rounded. -/
def add : Double → Double → Double
  | nan, _ => nan
  | _, nan => nan
  | infinite a, infinite b => if a = b then infinite a else nan
  | infinite a, _ => infinite a
  | _, infinite b => infinite b
  | finite n₁ m₁ e₁, finite n₂ m₂ e₂ =>
    let total := units n₁ m₁ e₁ + units n₂ m₂ e₂
    if total = 0 then zero (n₁ && n₂) else ofRatio (total < 0) total.natAbs (pow2 1074)

/-- The product with a positive integer, rounded. -/
def scale (k : Nat) : Double → Double
  | nan => nan
  | infinite negative => infinite negative
  | finite negative mantissa exponent =>
    if mantissa = 0 then zero negative
    else ofRatio negative (units false mantissa exponent * k).natAbs (pow2 1074)

/-- The integer that a number is, if it is one. -/
def toInt? : Double → Option Int
  | nan => none
  | infinite _ => none
  | finite negative mantissa exponent =>
    let sign : Int := if negative then -1 else 1
    if 0 ≤ exponent then some (sign * (mantissa * pow2 exponent.toNat : Nat))
    else
      let den := pow2 (-exponent).toNat
      if mantissa % den = 0 then some (sign * (mantissa / den : Nat)) else none

/-- Equality of numbers: the two zeros are equal, and what is no number equals nothing. -/
def numericallyEqual : Double → Double → Bool
  | nan, _ => false
  | _, nan => false
  | finite n₁ m₁ e₁, finite n₂ m₂ e₂ => (m₁ = 0 ∧ m₂ = 0) ∨ (n₁ = n₂ ∧ m₁ = m₂ ∧ e₁ = e₂)
  | a, b => a = b

end Double

end StyleImport
