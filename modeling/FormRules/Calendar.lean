/-!
# Dates and moments

Calendar dates of the years 1 to 9999 and moments within such a day, perhaps with an offset from
universal time, and the two ways they are written: for reading, and as they stand inside a list
or a message.
-/

namespace FormRules.Calendar

/-- A calendar date. -/
structure Date where
  year : Nat
  month : Nat
  day : Nat
  deriving DecidableEq, Repr

/-- A moment; the offset from universal time is in minutes. -/
structure Moment where
  date : Date
  hour : Nat
  minute : Nat
  second : Nat
  microsecond : Nat
  offset : Option Int
  deriving DecidableEq, Repr

/-- What keeps numbers from being a date or a moment. -/
inductive Misfit where
  | year (given : Nat)
  | month
  | day
  | hour
  | minute
  | second
  /-- An offset of a day or more, in minutes. -/
  | offset (minutes : Int)
  deriving DecidableEq, Repr

/-- Whether a year has a 29th of February. -/
def isLeap (year : Nat) : Bool :=
  year % 4 == 0 && (year % 100 != 0 || year % 400 == 0)

/-- The number of days in a month. -/
def daysIn (year month : Nat) : Nat :=
  if month = 2 then (if isLeap year then 29 else 28)
  else if month = 4 ∨ month = 6 ∨ month = 9 ∨ month = 11 then 30
  else 31

/-- The date of a year, month and day. -/
def Date.of? (year month day : Nat) : Except Misfit Date :=
  if year < 1 ∨ 9999 < year then .error (.year year)
  else if month < 1 ∨ 12 < month then .error .month
  else if day < 1 ∨ daysIn year month < day then .error .day
  else .ok ⟨year, month, day⟩

/-- A time on a date; the offset, which is judged first, is less than a day. -/
def Moment.of? (year month day hour minute second microsecond : Nat) (offset : Option Int) :
    Except Misfit Moment := do
  if let some minutes := offset then
    if 1440 ≤ minutes.natAbs then throw (.offset minutes)
  let date ← Date.of? year month day
  if 23 < hour then throw .hour
  if 59 < minute then throw .minute
  if 59 < second then throw .second
  return ⟨date, hour, minute, second, microsecond, offset⟩

/-- The number of days before a date. -/
def Date.daysBefore (d : Date) : Nat :=
  let years := d.year - 1
  365 * years + years / 4 - years / 100 + years / 400
    + ((List.range (d.month - 1)).map fun m => daysIn d.year (m + 1)).foldl (· + ·) 0 + (d.day - 1)

/-- The minute of universal time of a moment with an offset, counted from the first day on. -/
def Moment.universalMinute (m : Moment) (offset : Int) : Int :=
  ((m.date.daysBefore * 24 + m.hour) * 60 + m.minute : Nat) - offset

/-- Whether two moments are the same: the same instant, or the same time without an offset. -/
def Moment.isSameAs (m n : Moment) : Bool :=
  match m.offset, n.offset with
  | some a, some b =>
    m.universalMinute a == n.universalMinute b && m.second == n.second
      && m.microsecond == n.microsecond
  | none, none => m == n
  | _, _ => false

/-- A number padded with zeros to a width. -/
def padded (width n : Nat) : String :=
  let digits := toString n
  String.ofList (List.replicate (width - digits.length) '0') ++ digits

/-- A span of minutes as whole days, perhaps negative, and seconds of a day. -/
def spanText (minutes : Int) : String :=
  let days := minutes.fdiv 1440
  let seconds := minutes.fmod 1440 * 60
  let parts := (if days = 0 then [] else ["days=" ++ toString days])
    ++ (if seconds = 0 then [] else ["seconds=" ++ toString seconds])
  "datetime.timedelta(" ++ ", ".intercalate parts ++ ")"

/-- The wording of a misfit. -/
def Misfit.message : Misfit → String
  | .year given => "year " ++ toString given ++ " is out of range"
  | .month => "month must be in 1..12"
  | .day => "day is out of range for month"
  | .hour => "hour must be in 0..23"
  | .minute => "minute must be in 0..59"
  | .second => "second must be in 0..59"
  | .offset minutes =>
    "offset must be a timedelta strictly between -timedelta(hours=24) and timedelta(hours=24), not "
      ++ spanText minutes ++ "."

/-- A date for reading: year, month and day. -/
def Date.text (d : Date) : String :=
  padded 4 d.year ++ "-" ++ padded 2 d.month ++ "-" ++ padded 2 d.day

/-- A date as it stands inside a message. -/
def Date.literal (d : Date) : String :=
  "datetime.date(" ++ ", ".intercalate ([d.year, d.month, d.day].map toString) ++ ")"

/-- An offset for reading: a sign, hours and minutes. -/
def offsetText (minutes : Int) : String :=
  (if minutes < 0 then "-" else "+") ++ padded 2 (minutes.natAbs / 60) ++ ":"
    ++ padded 2 (minutes.natAbs % 60)

/-- A moment for reading: its date and time, microseconds only if there are any. -/
def Moment.text (m : Moment) : String :=
  m.date.text ++ " " ++ padded 2 m.hour ++ ":" ++ padded 2 m.minute ++ ":" ++ padded 2 m.second
    ++ (if m.microsecond = 0 then "" else "." ++ padded 6 m.microsecond)
    ++ (m.offset.map offsetText).getD ""

/-- A moment as it stands inside a message; seconds and microseconds only as far as needed. -/
def Moment.literal (m : Moment) : String :=
  let fine :=
    if m.microsecond ≠ 0 then [m.second, m.microsecond]
    else if m.second ≠ 0 then [m.second] else []
  let zone := match m.offset with
    | none => []
    | some 0 => ["tzinfo=datetime.timezone.utc"]
    | some minutes => ["tzinfo=datetime.timezone(" ++ spanText minutes ++ ")"]
  let numbers := [m.date.year, m.date.month, m.date.day, m.hour, m.minute] ++ fine
  "datetime.datetime(" ++ ", ".intercalate (numbers.map toString ++ zone) ++ ")"

end FormRules.Calendar
