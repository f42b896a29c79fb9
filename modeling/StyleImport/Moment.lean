import StyleImport.Text

/-!
# Dates and times

Calendar dates, times of day, and both together with or without an offset from universal time.
A year lies in 1 to 9999 and a date must exist in the Gregorian calendar.

## Main definitions

- `Moment`: a date, a time, or both.
- `Moment.Fault`: which part of a date or time is out of range.
- `Moment.date?`, `Moment.time?`: the checks.
- `Moment.same`: when two dates or times are the same key.
- `Moment.toText`: the text of a date or time.
-/

namespace StyleImport

/-- A calendar date. -/
structure Date where
  /-- The year. -/
  year : Nat
  /-- The month, from 1 on. -/
  month : Nat
  /-- The day of the month, from 1 on. -/
  day : Nat
deriving DecidableEq, Inhabited

/-- A time of day. -/
structure Time where
  /-- The hour. -/
  hour : Nat
  /-- The minute. -/
  minute : Nat
  /-- The second. -/
  second : Nat
  /-- The millionths of a second. -/
  micro : Nat
deriving DecidableEq, Inhabited

/-- An offset from universal time. -/
structure Offset where
  /-- The offset in seconds. -/
  seconds : Int
  /-- The way in which it is written, if this belongs to it. -/
  name : Option Text
deriving DecidableEq, Inhabited

/-- A date, a time of day, or a date and time with or without an offset. -/
inductive Moment
  /-- A date. -/
  | date (date : Date)
  /-- A time of day. -/
  | time (time : Time)
  /-- A date and time, and the offset from universal time, if it is known. -/
  | dateTime (date : Date) (time : Time) (offset : Option Offset)
deriving DecidableEq, Inhabited

namespace Moment

/-- Which part of a date or time is out of range. -/
inductive Fault
  /-- The year, which is given. -/
  | year (year : Nat)
  /-- The month. -/
  | month
  /-- The day. -/
  | day
  /-- The hour. -/
  | hour
  /-- The minute. -/
  | minute
  /-- The second. -/
  | second
  /-- The offset, which is given in seconds. -/
  | offset (seconds : Int)
deriving DecidableEq

/-- The quoted form of a span of time: its whole days and the seconds of the last, incomplete
one. -/
def spanText (seconds : Int) : Text :=
  let days := seconds.fdiv 86400
  let rest := seconds.fmod 86400
  let parts : List Text :=
    (if days = 0 then [] else ["days=" ++ Text.ofInt days])
      ++ (if rest = 0 then [] else ["seconds=" ++ Text.ofInt rest])
  "datetime.timedelta(" ++ (if parts = [] then "0" else Text.join ", " parts : Text) ++ ")"

/-- The wording of a fault. -/
def Fault.message : Fault → Text
  | year y => "year " ++ Text.ofNat y ++ " is out of range"
  | month => "month must be in 1..12"
  | day => "day is out of range for month"
  | hour => "hour must be in 0..23"
  | minute => "minute must be in 0..59"
  | second => "second must be in 0..59"
  | offset seconds =>
    "offset must be a timedelta strictly between -timedelta(hours=24) and timedelta(hours=24), not "
      ++ spanText seconds ++ "."

/-- Tells whether a year has a 29th of February. -/
def isLeap (year : Nat) : Bool := year % 4 = 0 ∧ (year % 100 ≠ 0 ∨ year % 400 = 0)

/-- The number of days of a month. -/
def daysIn (year month : Nat) : Nat :=
  if month = 2 then if isLeap year then 29 else 28
  else if [4, 6, 9, 11].contains month then 30 else 31

/-- The date with these parts, if it exists. -/
def date? (year month day : Nat) : Except Fault Date :=
  if year < 1 ∨ 9999 < year then .error (.year year)
  else if month < 1 ∨ 12 < month then .error .month
  else if day < 1 ∨ daysIn year month < day then .error .day
  else .ok ⟨year, month, day⟩

/-- The time with these parts, if it exists. -/
def time? (hour minute second micro : Nat) : Except Fault Time :=
  if 23 < hour then .error .hour
  else if 59 < minute then .error .minute
  else if 59 < second then .error .second
  else .ok ⟨hour, minute, second, micro⟩

/-- The offset of this many seconds, if it is less than a day. -/
def offset? (seconds : Int) : Except Fault Int :=
  if seconds.natAbs < 86400 then .ok seconds else .error (.offset seconds)

/-- The date after a date. -/
def nextDate (d : Date) : Except Fault Date :=
  if d.day < daysIn d.year d.month then .ok { d with day := d.day + 1 }
  else if d.month < 12 then .ok ⟨d.year, d.month + 1, 1⟩
  else date? (d.year + 1) 1 1

/-- The date and time one second later, with the millionths of a second unchanged. -/
def addSecond (d : Date) (t : Time) : Except Fault (Date × Time) :=
  if t.second < 59 then .ok (d, { t with second := t.second + 1 })
  else if t.minute < 59 then .ok (d, { t with second := 0, minute := t.minute + 1 })
  else if t.hour < 23 then .ok (d, { t with second := 0, minute := 0, hour := t.hour + 1 })
  else (nextDate d).map fun d => (d, { t with second := 0, minute := 0, hour := 0 })

/-- The text of a date. -/
def dateText (d : Date) : Text :=
  Text.ofNatPadded 4 d.year ++ "-" ++ Text.ofNatPadded 2 d.month ++ "-" ++ Text.ofNatPadded 2 d.day

/-- The text of a time of day. The fraction of a second is left out if it is zero. -/
def timeText (t : Time) : Text :=
  Text.ofNatPadded 2 t.hour ++ ":" ++ Text.ofNatPadded 2 t.minute ++ ":"
    ++ Text.ofNatPadded 2 t.second
    ++ (if t.micro = 0 then [] else .scalar '.' :: Text.ofNatPadded 6 t.micro)

/-- The text of an offset from universal time. -/
def offsetText (offset : Int) : Text :=
  let size := offset.natAbs
  (if offset < 0 then "-" else "+" : Text) ++ Text.ofNatPadded 2 (size / 3600) ++ ":"
    ++ Text.ofNatPadded 2 (size / 60 % 60)
    ++ (if size % 60 = 0 then [] else .scalar ':' :: Text.ofNatPadded 2 (size % 60))

/-- The text of a date or time. -/
def toText : Moment → Text
  | date d => dateText d
  | time t => timeText t
  | dateTime d t none => dateText d ++ " " ++ timeText t
  | dateTime d t (some offset) => dateText d ++ " " ++ timeText t ++ offsetText offset.seconds

/-- The number of days up to a date. -/
def dayNumber (d : Date) : Nat :=
  let years := d.year - 1
  let before := years * 365 + years / 4 - years / 100 + years / 400
  (List.range' 1 (d.month - 1)).foldl (fun days month => days + daysIn d.year month) before + d.day

/-- The number of millionths of a second up to a time of day. -/
def microNumber (t : Time) : Nat :=
  ((t.hour * 60 + t.minute) * 60 + t.second) * 1000000 + t.micro

/-- The point in universal time, in millionths of a second, if the offset is known. -/
def instant? : Moment → Option Int
  | dateTime d t (some offset) =>
    some ((dayNumber d * 86400 - offset.seconds) * 1000000 + microNumber t)
  | _ => none

/-- Tells whether two dates or times are the same key: those with an offset are if they are the
same point in universal time. -/
def same (a b : Moment) : Bool :=
  match a.instant?, b.instant? with
  | some m, some n => m = n
  | none, none => a = b
  | _, _ => false

end Moment

end StyleImport
