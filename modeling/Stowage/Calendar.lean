import Stowage.Decimal.Integer

/-!
Days and points in time.

A day is one of the Gregorian calendar, from the year 1 to 9999. A point in time is a time of day on
it, with an offset from universal time or without one; with one, points that name the same instant
are the same.
-/

namespace Stowage

/-- A number in at least `width` digits. -/
def Decimal.padded (width n : Nat) : String :=
  let ds := digits n
  String.ofList (List.replicate (width - ds.length) '0' ++ ds)

/-- A day. -/
structure Date where
  year : Nat
  month : Nat
  day : Nat
  deriving DecidableEq, Repr, Inhabited

namespace Date

def isLeap (year : Nat) : Bool := year % 4 == 0 && (year % 100 != 0 || year % 400 == 0)

/-- The number of days of a month. -/
def daysOf (year month : Nat) : Nat :=
  match month with
  | 2 => if isLeap year then 29 else 28
  | 4 | 6 | 9 | 11 => 30
  | _ => 31

/-- What keeps a day from being one of the calendar. -/
def fault? (d : Date) : Option String :=
  if d.year = 0 then some "year 0 is out of range"
  else if d.month = 0 ∨ 12 < d.month then some "month must be in 1..12"
  else if d.day = 0 ∨ daysOf d.year d.month < d.day then some "day is out of range for month"
  else none

/-- The number of a day; the first day of the calendar has number 1. -/
def number (d : Date) : Nat :=
  let years := d.year - 1
  let months := (List.range (d.month - 1)).foldl (fun n m => n + daysOf d.year (m + 1)) 0
  365 * years + years / 4 - years / 100 + years / 400 + months + d.day

/-- A day as text: year, month and day. -/
def text (d : Date) : String :=
  Decimal.padded 4 d.year ++ "-" ++ Decimal.padded 2 d.month ++ "-" ++ Decimal.padded 2 d.day

/-- The parts of a day, as its literal lists them. -/
def parts (d : Date) : List Nat := [d.year, d.month, d.day]

end Date

/-- A length of time, as its literal shows it: whole days, which may be negative, and the seconds
beyond them. -/
def durationLiteral (minutes : Int) : String :=
  let days := minutes.fdiv 1440
  let seconds := 60 * minutes.fmod 1440
  let shown := (if days = 0 then [] else ["days=" ++ Decimal.integerText days]) ++
    (if seconds = 0 then [] else ["seconds=" ++ Decimal.integerText seconds])
  "datetime.timedelta(" ++ (if shown.isEmpty then "0" else ", ".intercalate shown) ++ ")"

/-- A point in time. `offset` is in minutes, positive to the east. -/
structure Moment where
  date : Date
  hour : Nat := 0
  minute : Nat := 0
  second : Nat := 0
  micro : Nat := 0
  offset : Option Int := none
  deriving DecidableEq, Repr, Inhabited

namespace Moment

/-- What keeps an offset from being one: it has to be less than a day. -/
def offsetFault? (offset : Int) : Option String :=
  if offset.natAbs < 1440 then none
  else some ("offset must be a timedelta strictly between -timedelta(hours=24) and " ++
    "timedelta(hours=24), not " ++ durationLiteral offset ++ ".")

/-- What keeps a point in time from being one. -/
def fault? (m : Moment) : Option String :=
  ((m.offset.bind offsetFault?).or m.date.fault?).or <|
    if 23 < m.hour then some "hour must be in 0..23"
    else if 59 < m.minute then some "minute must be in 0..59"
    else if 59 < m.second then some "second must be in 0..59"
    else none

/-- The microseconds from the beginning of the calendar, in universal time if the offset is
known. -/
def micros (m : Moment) : Int :=
  let minutes : Int := 1440 * m.date.number + 60 * m.hour + m.minute - m.offset.getD 0
  60000000 * minutes + 1000000 * m.second + m.micro

/-- Whether two points in time are the same instant. One with an offset is never the same as one
without. -/
def same (a b : Moment) : Bool := a.offset.isSome == b.offset.isSome && a.micros == b.micros

/-- An offset as text: sign, hours and minutes. -/
def offsetText (offset : Int) : String :=
  (if offset < 0 then "-" else "+") ++ Decimal.padded 2 (offset.natAbs / 60) ++ ":" ++
    Decimal.padded 2 (offset.natAbs % 60)

/-- A point in time as text. -/
def text (m : Moment) : String :=
  m.date.text ++ " " ++ Decimal.padded 2 m.hour ++ ":" ++ Decimal.padded 2 m.minute ++ ":" ++
    Decimal.padded 2 m.second ++
    (if m.micro = 0 then "" else "." ++ Decimal.padded 6 m.micro) ++
    (match m.offset with | some offset => offsetText offset | none => "")

/-- The parts of a point in time, as its literal lists them: zeros at the end are left out, hour and
minute excepted. -/
def parts (m : Moment) : List Nat :=
  m.date.parts ++ [m.hour, m.minute] ++
    (if m.micro = 0 then if m.second = 0 then [] else [m.second] else [m.second, m.micro])

/-- An offset, as the literal of a point in time shows it. -/
def offsetLiteral (offset : Int) : String :=
  "tzinfo=datetime.timezone" ++
    (if offset = 0 then ".utc" else "(" ++ durationLiteral offset ++ ")")

/-- The literal of a point in time. -/
def literal (m : Moment) : String :=
  "datetime.datetime(" ++ ", ".intercalate (m.parts.map Decimal.naturalText ++
    m.offset.toList.map offsetLiteral) ++ ")"

end Moment

/-- The literal of a day. -/
def Date.literal (d : Date) : String :=
  "datetime.date(" ++ ", ".intercalate (d.parts.map Decimal.naturalText) ++ ")"

end Stowage
