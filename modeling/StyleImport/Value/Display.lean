import StyleImport.Number.Numeral
import StyleImport.Number.Shortest
import StyleImport.Text.Quoted
import StyleImport.Value

/-!
# Displayed values

How a value stands in a message or report. At the outside a text stands as it is; inside a list,
tuple, set or mapping it stands in quotes. Integers with too many digits have no form.

## Main definitions

- `Value.quoted`: the form of a value inside another one.
- `Value.display`: the form of a value that stands alone.
- `Value.isWritable`: whether the integers of a value have a form.
-/

namespace StyleImport

namespace Moment

/-- The quoted form of an offset from universal time. -/
def quotedOffset (offset : Offset) : Text :=
  match offset.name with
  | some name => "datetime.timezone(" ++ spanText offset.seconds ++ ", " ++ name.quoted ++ ")"
  | none =>
    if offset.seconds = 0 then "datetime.timezone.utc"
    else "datetime.timezone(" ++ spanText offset.seconds ++ ")"

/-- The parts of a time of day; a last part that is zero is left out. -/
def quotedTime (t : Time) : List Nat :=
  if t.micro ≠ 0 then [t.hour, t.minute, t.second, t.micro]
  else if t.second ≠ 0 then [t.hour, t.minute, t.second]
  else [t.hour, t.minute]

/-- The form of a date or time inside a list. -/
def quoted : Moment → Text
  | date d =>
    "datetime.date(" ++ Text.join ", " ([d.year, d.month, d.day].map Text.ofNat) ++ ")"
  | time t => "datetime.time(" ++ Text.join ", " ((quotedTime t).map Text.ofNat) ++ ")"
  | dateTime d t offset =>
    "datetime.datetime("
      ++ Text.join ", " (([d.year, d.month, d.day] ++ quotedTime t).map Text.ofNat)
      ++ (match offset with
        | none => ""
        | some o => ", tzinfo=" ++ quotedOffset o : Text)
      ++ ")"

end Moment

namespace Value

/-- A string of bytes between quotes: printable ASCII as it is, all else by its number. -/
def quotedBytes (bs : List UInt8) : Text :=
  let chars := bs.map fun b => CodePoint.scalar (Char.ofNat b.toNat)
  let quote := Text.quoteMark chars
  .scalar 'b' :: .scalar quote :: chars.flatMap (fun c =>
    if c.toNat < 0x7f then c.quotedBetween quote else c.numericEscape) ++ [.scalar quote]

mutual

/-- The form of a value inside another one. -/
def quoted : Value → Text
  | null => "None"
  | bool true => "True"
  | bool false => "False"
  | int n => Text.ofInt n
  | double x => x.toText
  | text t => t.quoted
  | moment m => m.quoted
  | bytes bs => quotedBytes bs
  | list items => "[" ++ Text.join ", " (quotedItems items) ++ "]"
  | tuple [item] => "(" ++ quoted item ++ ",)"
  | tuple items => "(" ++ Text.join ", " (quotedItems items) ++ ")"
  | set [] => "set()"
  | set items => "\x7b" ++ Text.join ", " (quotedItems items) ++ "\x7d"
  | map entries => "\x7b" ++ Text.join ", " (quotedEntries entries) ++ "\x7d"
  | circle => "..."

/-- The forms of the items of a list. -/
def quotedItems : List Value → List Text
  | [] => []
  | v :: vs => quoted v :: quotedItems vs

/-- The forms of the entries of a mapping. -/
def quotedEntries : List (Value × Value) → List Text
  | [] => []
  | (k, v) :: es => (quoted k ++ ": " ++ quoted v) :: quotedEntries es

end

mutual

/-- Tells whether all integers of a value can be written. -/
def isWritable : Value → Bool
  | int n => Numeral.isWritable n
  | list items => allWritable items
  | tuple items => allWritable items
  | set items => allWritable items
  | map entries => entriesWritable entries
  | _ => true

/-- Tells whether all integers of several values can be written. -/
def allWritable : List Value → Bool
  | [] => true
  | v :: vs => isWritable v && allWritable vs

/-- Tells whether all integers of the entries of a mapping can be written. -/
def entriesWritable : List (Value × Value) → Bool
  | [] => true
  | (k, v) :: es => isWritable k && isWritable v && entriesWritable es

end

/-- The form of a value that stands alone. -/
def display : Value → Text
  | text t => t
  | moment m => m.toText
  | v => v.quoted

end Value

end StyleImport
