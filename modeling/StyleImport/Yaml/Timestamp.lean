import StyleImport.Moment
import StyleImport.Yaml.Schema

/-!
# Dates and times in YAML documents

A date is a year, a month and a day with hyphens between them. A time of day may follow behind a
letter T or blanks, and an offset from universal time behind it. A fraction of a second is rounded
to millionths.

## Main definitions

- `Yaml.Timestamp`: the parts of a date and time as they are written.
- `Yaml.Timestamp.parse?`: the parts of a text.
- `Yaml.Timestamp.moment?`: the date and time with these parts.
-/

namespace StyleImport

namespace Yaml

/-- The time of day of a timestamp as it is written. -/
structure Timestamp.Clock where
  /-- The hour. -/
  hour : Nat
  /-- The minute. -/
  minute : Nat
  /-- The second. -/
  second : Nat
  /-- The digits of the fraction of a second. -/
  fraction : List Nat
  /-- The offset from universal time, if it is given. -/
  offset : Option Offset

/-- The parts of a date and time as they are written. -/
structure Timestamp where
  /-- The year. -/
  year : Nat
  /-- The month. -/
  month : Nat
  /-- The day. -/
  day : Nat
  /-- The time of day. -/
  clock : Option Timestamp.Clock

namespace Timestamp

/-- The number that a list of digits stands for. -/
def number (ds : List Nat) : Nat := ds.foldl (fun n d => n * 10 + d) 0

/-- Takes digits off a text, whose number must lie between two bounds. -/
def takeDigits (least most : Nat) (cs : List Char) : Option (Nat × List Char) :=
  let ds := cs.takeWhile Char.isDigit
  if least ≤ ds.length ∧ ds.length ≤ most then
    some (number (ds.map fun c => c.toNat - '0'.toNat), cs.drop ds.length)
  else none

/-- Takes one character off a text. -/
def takeChar (c : Char) : List Char → Option (List Char)
  | d :: cs => if c = d then some cs else none
  | [] => none

/-- Takes what stands between a date and a time off a text. -/
def takeSeparator : List Char → Option (List Char)
  | 'T' :: cs => some cs
  | 't' :: cs => some cs
  | c :: cs => if c = ' ' ∨ c = '\t' then some (cs.dropWhile fun c => c = ' ' || c = '\t') else none
  | [] => none

/-- Takes a fraction off a text, if it is there. -/
def takeFraction : List Char → List Nat × List Char
  | '.' :: cs =>
    let ds := cs.takeWhile Char.isDigit
    (ds.map fun c => c.toNat - '0'.toNat, cs.drop ds.length)
  | cs => ([], cs)

/-- The size of an offset in seconds: hours, and perhaps minutes behind a colon. -/
def offsetSize (cs : List Char) : Option Nat := do
  let (hours, cs) ← takeDigits 1 2 cs
  if cs = [] then return hours * 3600
  let cs ← takeChar ':' cs
  let (minutes, cs) ← takeDigits 2 2 cs
  if cs = [] then return hours * 3600 + minutes * 60 else none

/-- The offset that the end of a text gives, if there is one. It is named as it is written. -/
def takeOffset (cs : List Char) : Option (Option Offset) :=
  if cs = [] then some none
  else
    let name := cs.dropWhile fun c => c = ' ' || c = '\t'
    let named (seconds : Int) : Option Offset := some ⟨seconds, some (Text.ofChars name)⟩
    match name with
    | ['Z'] => some (named 0)
    | '+' :: cs => (offsetSize cs).map fun n => named n
    | '-' :: cs => (offsetSize cs).map fun n => named (-n)
    | _ => none

/-- The parts of a text, if it is a date or a date and time. A line feed may end it. -/
def parse? (text : List Char) : Option Timestamp := do
  let cs := dropLastFeed text
  let (year, cs) ← takeDigits 4 4 cs
  let (month, cs) ← takeDigits 1 2 (← takeChar '-' cs)
  let (day, cs) ← takeDigits 1 2 (← takeChar '-' cs)
  if cs = [] then return ⟨year, month, day, none⟩
  let (hour, cs) ← takeDigits 1 2 (← takeSeparator cs)
  let (minute, cs) ← takeDigits 2 2 (← takeChar ':' cs)
  let (second, cs) ← takeDigits 2 2 (← takeChar ':' cs)
  let (fraction, cs) := takeFraction cs
  let offset ← takeOffset cs
  return ⟨year, month, day, some ⟨hour, minute, second, fraction, offset⟩⟩

/-- The millionths of a fraction, rounded by its seventh digit; there may be a whole million. -/
def micros (fraction : List Nat) : Nat :=
  let six := number ((fraction ++ List.replicate 6 0).take 6)
  match fraction[6]? with
  | some d => if 4 < d then six + 1 else six
  | none => six

/-- The date and time with these parts. -/
def moment? (t : Timestamp) : Except Moment.Fault Moment := do
  match t.clock with
  | none => return .date (← Moment.date? t.year t.month t.day)
  | some c =>
    let offset ← match c.offset with
      | none => pure none
      | some offset => (Moment.offset? offset.seconds).map fun _ => some offset
    let micro := micros c.fraction
    let date ← Moment.date? t.year t.month t.day
    let time ← Moment.time? c.hour c.minute c.second (micro % 1000000)
    if micro < 1000000 then return .dateTime date time offset
    let (date, time) ← Moment.addSecond date time
    return .dateTime date time offset

end Timestamp

end Yaml

end StyleImport
