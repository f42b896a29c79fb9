import StyleImport.Number.Shortest
import StyleImport.Text.Base64
import StyleImport.Text.LetterCase
import StyleImport.Value
import StyleImport.Yaml.Fault
import StyleImport.Yaml.Timestamp

/-!
# Values of scalars

The value that the text of a scalar gives in its kind. Underscores in numerals do not count, and
truth values and floating-point numbers are read in small letters.

## Main definitions

- `Yaml.Scalar.int`, `Yaml.Scalar.double`, `Yaml.Scalar.timestamp`, `Yaml.Scalar.binary`: the values
  of some kinds.
- `Yaml.Scalar.value`: the value of a scalar of any kind.
-/

namespace StyleImport

namespace Yaml

namespace Scalar

/-- The truth value that a text spells, in whatever case. -/
def truthValue? (t : Text) : Option Bool :=
  let word := t.toLower
  if (["yes", "y", "true", "on"] : List Text).contains word then some true
  else if (["no", "n", "false", "off"] : List Text).contains word then some false
  else none

/-- Takes a sign off a numeral without underscores. -/
def takeSign (t : Text) : Except Fault (Bool × Text) :=
  match t with
  | [] => .error .emptyNumeral
  | .scalar '-' :: rest => .ok (true, rest)
  | .scalar '+' :: rest => .ok (false, rest)
  | t => .ok (false, t)

/-- The text without its underscores. -/
def dropUnderscores (t : Text) : Text := t.filter (· ≠ .scalar '_')

/-- An integer numeral in a base. -/
def integer (base : Nat) (t : Text) : Except Fault Int :=
  (Numeral.integer? base t).mapError .numeral

/-- The value of groups of sixty, the last one first. -/
def sixties (parts : List Int) : Int := parts.foldr (fun n acc => n + 60 * acc) 0

/-- The integer of a scalar. -/
def int (older : Bool) (t : Text) : Except Fault Int := do
  let (negative, body) ← takeSign (dropUnderscores t)
  let size ← match body with
    | [.scalar '0'] => pure 0
    | .scalar '0' :: .scalar 'b' :: rest => integer 2 rest
    | .scalar '0' :: .scalar 'x' :: rest => integer 16 rest
    | .scalar '0' :: .scalar 'o' :: rest => integer 8 rest
    | body =>
      if older ∧ body = [] then throw .emptyNumeral
      else if older ∧ body.head? = some (.scalar '0') then integer 8 body
      else if older ∧ body.contains (.scalar ':') then
        (sixties ·.reverse) <$> (Text.split (.scalar ':') body).mapM (integer 10)
      else integer 10 body
  return if negative then -size else size

/-- A floating-point numeral. -/
def numeral (t : Text) : Except Fault Double := (Numeral.double? t).mapError .numeral

/-- The value of groups of sixty, the last one first, where each one counts `weight`. -/
def sixtiesDouble (weight : Nat) (total : Double) : List Double → Double
  | [] => total
  | x :: xs => sixtiesDouble (weight * 60) (total.add (x.scale weight)) xs

/-- A floating-point numeral in small letters without its sign. In the older version it is taken
apart at its exponent, of which there may be one. -/
def unsignedDouble (older : Bool) (body : Text) : Except Fault Double :=
  if older ∧ 2 < (Text.split (.scalar 'e') body).length then .error .manyExponents
  else numeral body

/-- The name of the number that is none. -/
def nanName : Text := ".nan"

/-- Takes the sign off a floating-point numeral and brings the rest into its plainest form. -/
def doubleParts (t : Text) : Except Fault (Bool × Text) := takeSign (dropUnderscores t).toLower

/-- Tells whether a text names the number that is none. -/
def namesNan (t : Text) : Bool :=
  match doubleParts t with
  | .ok (_, body) => body = nanName
  | .error _ => false

/-- The floating-point number of a scalar. -/
def double (older : Bool) (t : Text) : Except Fault Double := do
  let (negative, body) ← doubleParts t
  let size ←
    if body = ".inf" then pure (.infinite false)
    else if body = nanName then pure .nan
    else if older ∧ body.contains (.scalar ':') then
      let parts ← (Text.split (.scalar ':') body).mapM numeral
      pure (sixtiesDouble 1 (.zero false) parts.reverse)
    else unsignedDouble older body
  return if negative then size.negate else size

/-- The date of a scalar. -/
def timestamp (t : Text) : Except Fault Moment :=
  match t.toChars?.bind Timestamp.parse? with
  | none => .error .malformed
  | some stamp => stamp.moment?.mapError .moment

/-- The bytes of a scalar. -/
def binary (t : Text) : Except Fault (List UInt8) :=
  match t.toChars? with
  | none => .error .malformed
  | some cs =>
    if cs.any fun c => 0x80 ≤ c.toNat then .error .malformed
    else match Base64.decode? cs with
      | some bytes => .ok bytes
      | none => .error .malformed

/-- The value of a scalar of a kind. -/
def value (older : Bool) (tag : Tag) (t : Text) : Except Fault Value :=
  match tag with
  | .null => .ok .null
  | .bool =>
    match truthValue? t with
    | some b => .ok (.bool b)
    | none => .error (.truthValue t.toLower)
  | .int => (int older t).map .int
  | .double => (double older t).map .double
  | .binary => (binary t).map .bytes
  | .timestamp => (timestamp t).map .moment
  | .str => .ok (.text t)
  | _ => .error .malformed

end Scalar

end Yaml

end StyleImport
