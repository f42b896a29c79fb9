import StyleImport.Number.Double

/-!
# Shortest decimal text of a number

A finite number is written with the fewest significant digits that read back as the same number,
and with the nearest such digits to it. A point is placed among the digits for decimal exponents
from -4 up to 15; outside of that an exponent is written.

## Main definitions

- `Double.shortest`: the digits of a positive number and the place of the point.
- `Double.toText`: the text of any number.
-/

namespace StyleImport

namespace Double

/-- The least `k` from `k` on, at most `fuel` more, with `num * 10 ^ k ≥ den`. -/
def leadingZeros (num den : Nat) (k : Nat) : Nat → Nat
  | 0 => k
  | fuel + 1 => if den ≤ num * pow10 k then k else leadingZeros num den (k + 1) fuel

/-- The `p` such that the positive quotient lies from `10 ^ (p - 1)` on and below `10 ^ p`. -/
def pointPlace (num den : Nat) : Int :=
  if den ≤ num then ((Nat.toDigits 10 (num / den)).length : Nat)
  else 1 - (leadingZeros num den 1 400 : Nat)

/-- A decimal number: digits, and the place of the point relative to the first one. -/
structure Decimal where
  /-- The digits as one number, the first and the last one not zero. -/
  digits : Nat
  /-- The number of digits before the point. -/
  point : Int
deriving DecidableEq

/-- A quotient that lies between two others, all over one denominator. -/
structure Interval where
  /-- The least numerator. -/
  low : Nat
  /-- The numerator of the number itself. -/
  value : Nat
  /-- The greatest numerator. -/
  high : Nat
  /-- The denominator. -/
  den : Nat
  /-- Whether the two ends belong to the interval. -/
  closed : Bool

/-- The reals that are rounded to the number `mantissa * 2 ^ exponent`. -/
def interval (mantissa : Nat) (exponent : Int) : Interval :=
  let step := if mantissa = pow2 52 ∧ -1074 < exponent then 1 else 2
  let up := (exponent - 2).toNat
  let down := (2 - exponent).toNat
  ⟨(4 * mantissa - step) * pow2 up, 4 * mantissa * pow2 up, (4 * mantissa + 2) * pow2 up, pow2 down,
    mantissa % 2 = 0⟩

/-- Whether the grid point `n * 10 ^ scale` lies in the interval. -/
def Interval.holds (i : Interval) (n : Nat) (scale : Int) : Bool :=
  let point := n * pow10 scale.toNat * i.den
  let unit := pow10 (-scale).toNat
  if i.closed then i.low * unit ≤ point && point ≤ i.high * unit
  else i.low * unit < point && point < i.high * unit

/-- The nearest grid point to the value among those of scale `scale` that lie in the interval. -/
def Interval.nearest? (i : Interval) (scale : Int) : Option Nat :=
  let num := i.value * pow10 (-scale).toNat
  let den := i.den * pow10 scale.toNat
  let low := num / den
  let near := roundHalfEven num den
  if i.holds near scale then some near
  else if i.holds low scale then some low
  else if i.holds (low + 1) scale then some (low + 1)
  else none

/-- The first grid with a point in the interval, from `count` digits on. -/
def Interval.search (i : Interval) (point : Int) (count : Nat) : Nat → Nat × Int
  | 0 => (0, point)
  | fuel + 1 =>
    let scale := point - count
    match i.nearest? scale with
    | some n => (n, scale)
    | none => i.search point (count + 1) fuel

/-- Moves the zeros at the end of the digits into the scale. -/
def trimZeros (n : Nat) (scale : Int) : Nat → Nat × Int
  | 0 => (n, scale)
  | fuel + 1 => if n % 10 = 0 ∧ n ≠ 0 then trimZeros (n / 10) (scale + 1) fuel else (n, scale)

/-- The shortest decimal that reads back as the positive number `mantissa * 2 ^ exponent`. -/
def shortest (mantissa : Nat) (exponent : Int) : Decimal :=
  let i := interval mantissa exponent
  let found := i.search (pointPlace i.value i.den) 1 20
  let trimmed := trimZeros found.1 found.2 20
  ⟨trimmed.1, (Nat.toDigits 10 trimmed.1).length + trimmed.2⟩

/-- The least place of the point at which no exponent is written. -/
def leastPoint : Int := -3

/-- The greatest place of the point at which no exponent is written. -/
def greatestPoint : Int := 16

/-- A decimal number written with a point or with an exponent of at least two digits. -/
def Decimal.toText (d : Decimal) : Text :=
  let digits := Nat.toDigits 10 d.digits
  let zeros (n : Nat) : List Char := List.replicate n '0'
  Text.ofChars <|
    if leastPoint ≤ d.point ∧ d.point ≤ greatestPoint then
      if d.point ≤ 0 then '0' :: '.' :: zeros (-d.point).toNat ++ digits
      else
        let whole := d.point.toNat
        if digits.length ≤ whole then digits ++ zeros (whole - digits.length) ++ ['.', '0']
        else digits.take whole ++ '.' :: digits.drop whole
    else
      let exponent := d.point - 1
      let size := Nat.toDigits 10 exponent.natAbs
      let mark := if exponent < 0 then ['e', '-'] else ['e', '+']
      let padded := if size.length < 2 then '0' :: size else size
      (match digits with
        | [first] => [first]
        | first :: rest => first :: '.' :: rest
        | [] => []) ++ mark ++ padded

/-- The text of a number. -/
def toText : Double → Text
  | nan => "nan"
  | infinite false => "inf"
  | infinite true => "-inf"
  | finite negative mantissa exponent =>
    let size : Text := if mantissa = 0 then "0.0" else (shortest mantissa exponent).toText
    if negative then .scalar '-' :: size else size

end Double

end StyleImport
