import AccountSidecar.Text.Quoted

/-!
# Dates and times

The four kinds of moment that a configuration document may write, with two texts each: the plain
one, and the constructor form that stands for a moment inside a displayed list.
-/

namespace AccountSidecar

/-- A day of the calendar. -/
structure Date where
  year : Nat
  month : Nat
  day : Nat
  deriving DecidableEq, Repr, Inhabited

/-- A time of day, to the microsecond. -/
structure TimeOfDay where
  hour : Nat
  minute : Nat
  second : Nat
  micro : Nat
  deriving DecidableEq, Repr, Inhabited

/-- A date, a time of day, or both, with a distance from universal time in minutes where one is
known. -/
inductive Moment where
  | date (day : Date)
  | time (clock : TimeOfDay)
  | dateTime (day : Date) (clock : TimeOfDay) (offset : Option Int)
  deriving DecidableEq, Repr

/-- Whether a year has a leap day. -/
def isLeapYear (year : Nat) : Bool := year % 4 = 0 && (year % 100 != 0 || year % 400 = 0)

/-- The first second of the year 1, counted from the start of 1970. -/
def startOfTime : Int := -62135596800

/-- The first second past the year 9999, the last one of the calendar. -/
def endOfTime : Int := 253402300800

/-- Whether the calendar has a second. -/
def isDated (second : Int) : Bool := startOfTime ≤ second && second < endOfTime

/-- The number of days of a month. -/
def daysInMonth (year month : Nat) : Nat :=
  if month = 2 then (if isLeapYear year then 29 else 28)
  else if month = 4 || month = 6 || month = 9 || month = 11 then 30 else 31

/-- Whether the day stands in the calendar; year zero does not. -/
def Date.isValid (d : Date) : Bool :=
  1 ≤ d.year && 1 ≤ d.month && d.month ≤ 12 && 1 ≤ d.day && d.day ≤ daysInMonth d.year d.month

/-- The last `width` decimal digits of a number, with leading zeros. -/
def zeroPadded : Nat → Nat → List Char
  | 0, _ => []
  | width + 1, n => zeroPadded width (n / 10) ++ [Char.ofNat (0x30 + n % 10)]

/-- Two digits. -/
def twoDigits (n : Nat) : List Char := zeroPadded 2 n

/-- Year, month and day between hyphens. -/
def Date.plain (d : Date) : List Char :=
  zeroPadded 4 d.year ++ '-' :: twoDigits d.month ++ '-' :: twoDigits d.day

/-- Hour, minute and second between colons, and the microseconds if there are any. -/
def TimeOfDay.plain (t : TimeOfDay) : List Char :=
  twoDigits t.hour ++ ':' :: twoDigits t.minute ++ ':' :: twoDigits t.second ++
    (if t.micro = 0 then [] else '.' :: zeroPadded 6 t.micro)

/-- A distance from universal time, signed. -/
def offsetPlain (minutes : Int) : List Char :=
  (if minutes < 0 then '-' else '+') :: twoDigits (minutes.natAbs / 60) ++
    ':' :: twoDigits (minutes.natAbs % 60)

/-- The plain text of a moment. -/
def Moment.plain : Moment → String
  | .date d => String.ofList d.plain
  | .time t => String.ofList t.plain
  | .dateTime d t offset =>
    String.ofList (d.plain ++ ' ' :: t.plain ++ (offset.map offsetPlain).getD [])

/-- The arguments that stand for a time of day; trailing zeros after the minute are left out. -/
def TimeOfDay.arguments (t : TimeOfDay) : List String :=
  let head := [toString t.hour, toString t.minute]
  if t.micro != 0 then head ++ [toString t.second, toString t.micro]
  else if t.second != 0 then head ++ [toString t.second]
  else head

/-- The constructor form of a distance from universal time. -/
def offsetConstructor (minutes : Int) : String :=
  if minutes = 0 then "datetime.timezone.utc"
  else
    let seconds := minutes * 60
    let span :=
      if seconds < 0 then "days=-1, seconds=" ++ toString (seconds + 86400)
      else "seconds=" ++ toString seconds
    "datetime.timezone(datetime.timedelta(" ++ span ++ "))"

/-- The constructor form of a moment. -/
def Moment.constructorForm : Moment → String
  | .date d =>
    "datetime.date(" ++ ", ".intercalate [toString d.year, toString d.month, toString d.day] ++ ")"
  | .time t => "datetime.time(" ++ ", ".intercalate t.arguments ++ ")"
  | .dateTime d t offset =>
    let day := [toString d.year, toString d.month, toString d.day]
    let zone := (offset.map fun m => ["tzinfo=" ++ offsetConstructor m]).getD []
    "datetime.datetime(" ++ ", ".intercalate (day ++ t.arguments ++ zone) ++ ")"

end AccountSidecar
