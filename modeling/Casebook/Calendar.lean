/-!
# Dates and moments

Calendar dates and points in time as documents write them, the limits of each field, and
their two texts: the plain one, and the one that names the fields.
-/

namespace Casebook

/-- A date of the Gregorian calendar. -/
structure Date where
  year : Nat
  month : Nat
  day : Nat
deriving Repr, DecidableEq

/-- A point in time: a date, a time of day, and perhaps the distance from universal time. -/
structure Moment where
  date : Date
  hour : Nat
  minute : Nat
  second : Nat
  microsecond : Nat
  /-- Minutes east of universal time. -/
  offset : Option Int
deriving Repr, DecidableEq

namespace Calendar

def isLeap (year : Nat) : Bool :=
  year % 4 == 0 && (year % 100 != 0 || year % 400 == 0)

/-- The number of days of a month. -/
def daysIn (year month : Nat) : Nat :=
  if month == 2 then (if isLeap year then 29 else 28)
  else if month == 4 || month == 6 || month == 9 || month == 11 then 30
  else 31

/-- A field of a date or moment that is out of range. -/
inductive Fault
  | year (given : Nat)
  | month
  | day
  | hour
  | minute
  | second
  | offset (minutes : Int)
deriving Repr, DecidableEq

/-- A number of at least so many digits, with zeros in front. -/
def padded (width n : Nat) : String :=
  let digits := toString n
  String.ofList (List.replicate (width - digits.length) '0') ++ digits

/-- A span of minutes as a whole number of days and the seconds of the day after it. -/
def spanText (minutes : Int) : String :=
  let days := Int.fdiv minutes 1440
  let seconds := Int.fmod minutes 1440 * 60
  let fields := (if days = 0 then [] else [s!"days={days}"]) ++
    (if seconds = 0 then [] else [s!"seconds={seconds}"])
  let fields := if fields.isEmpty then "0" else ", ".intercalate fields
  s!"datetime.timedelta({fields})"

/-- The text reported for a field out of range. -/
def Fault.message : Fault → String
  | .year y => s!"year {y} is out of range"
  | .month => "month must be in 1..12"
  | .day => "day is out of range for month"
  | .hour => "hour must be in 0..23"
  | .minute => "minute must be in 0..59"
  | .second => "second must be in 0..59"
  | .offset m =>
    "offset must be a timedelta strictly between -timedelta(hours=24) and timedelta(hours=24), not " ++
      spanText m ++ "."

end Calendar

/-- A date, if its fields are in range. -/
def Date.ofFields (year month day : Nat) : Except Calendar.Fault Date :=
  if year = 0 then .error (.year year)
  else if month = 0 || 12 < month then .error .month
  else if day = 0 || Calendar.daysIn year month < day then .error .day
  else .ok ⟨year, month, day⟩

/-- A moment, if its fields are in range. The offset is judged first. -/
def Moment.ofFields (year month day hour minute second microsecond : Nat)
    (offset : Option Int) : Except Calendar.Fault Moment := do
  match offset with
  | some m => if m.natAbs ≥ 1440 then throw (.offset m)
  | none => pure ()
  let date ← Date.ofFields year month day
  if 23 < hour then throw .hour
  if 59 < minute then throw .minute
  if 59 < second then throw .second
  return ⟨date, hour, minute, second, microsecond, offset⟩

namespace Date

/-- Year, month and day between hyphens. -/
def render (d : Date) : String :=
  Calendar.padded 4 d.year ++ "-" ++ Calendar.padded 2 d.month ++ "-" ++ Calendar.padded 2 d.day

/-- How many days lie before the date. -/
def dayNumber (d : Date) : Nat :=
  let years := d.year - 1
  let before := ((List.range (d.month - 1)).map fun m => Calendar.daysIn d.year (m + 1)).foldr
    (· + ·) 0
  365 * years + years / 4 - years / 100 + years / 400 + before + d.day

/-- The date with its kind and fields named. -/
def described (d : Date) : String := s!"datetime.date({d.year}, {d.month}, {d.day})"

end Date

namespace Moment

/-- Microseconds of universal time, for a moment so many minutes east of it. -/
def instant (m : Moment) (offset : Int) : Int :=
  let minutes : Int := (m.date.dayNumber * 24 + m.hour) * 60 + m.minute
  ((minutes - offset) * 60 + m.second) * 1000000 + m.microsecond

/-- Two moments are the same point in time. One whose distance from universal time is not
known is never the same as one whose distance is. -/
def isSame (a b : Moment) : Bool :=
  match a.offset, b.offset with
  | some m, some n => a.instant m == b.instant n
  | none, none => a == b
  | _, _ => false

/-- The time of day, with a fraction unless it is zero. -/
def clock (m : Moment) : String :=
  Calendar.padded 2 m.hour ++ ":" ++ Calendar.padded 2 m.minute ++ ":" ++
    Calendar.padded 2 m.second ++
    (if m.microsecond = 0 then "" else "." ++ Calendar.padded 6 m.microsecond)

/-- An offset as hours and minutes with a sign. -/
def offsetText (minutes : Int) : String :=
  let n := minutes.natAbs
  (if minutes < 0 then "-" else "+") ++ Calendar.padded 2 (n / 60) ++ ":" ++
    Calendar.padded 2 (n % 60)

/-- Date, `between`, time and offset; `universal` is the offset zero. -/
def renderWith (between universal : String) (m : Moment) : String :=
  m.date.render ++ between ++ m.clock ++
    match m.offset with
    | none => ""
    | some 0 => universal
    | some o => offsetText o

/-- The moment with a blank between date and time. -/
def render (m : Moment) : String := m.renderWith " " "+00:00"

/-- The moment as a document dump shows it. -/
def renderDump (m : Moment) : String := m.renderWith "T" "Z"

/-- The moment with its kind and fields named. -/
def described (m : Moment) : String :=
  let seconds :=
    if m.microsecond ≠ 0 then [m.second, m.microsecond]
    else if m.second ≠ 0 then [m.second] else []
  let fields := ([m.date.year, m.date.month, m.date.day, m.hour, m.minute] ++ seconds).map toString
  let zone := match m.offset with
    | none => []
    | some 0 => ["tzinfo=datetime.timezone.utc"]
    | some o => [s!"tzinfo=datetime.timezone({Calendar.spanText o})"]
  "datetime.datetime(" ++ ", ".intercalate (fields ++ zone) ++ ")"

end Moment

end Casebook
