/-! # Dates and times of day -/

namespace Scenario

/-- A day of the calendar. -/
structure Date where
  year : Nat
  month : Nat
  day : Nat
deriving DecidableEq, Repr

/-- A time of day, to the microsecond. -/
structure TimeOfDay where
  hour : Nat
  minute : Nat
  second : Nat
  microsecond : Nat
deriving DecidableEq, Repr

/-- A day with a time, and the distance to universal time in minutes if it is known. -/
structure Moment where
  date : Date
  time : TimeOfDay
  offset : Option Int
deriving DecidableEq, Repr

/-- Why numbers are no date or time. -/
inductive CalendarFault where
  | year (n : Nat)
  | month
  | day
  | hour
  | minute
  | second
  /-- The distance to universal time is a day or more. -/
  | offset (minutes : Int)
deriving DecidableEq, Repr

/-- Whether a year has a 29th of February. -/
def isLeapYear (year : Nat) : Bool :=
  year % 4 == 0 && (year % 100 != 0 || year % 400 == 0)

/-- The number of days of a month. -/
def daysInMonth (year month : Nat) : Nat :=
  if month = 2 then if isLeapYear year then 29 else 28
  else if month ∈ [4, 6, 9, 11] then 30
  else 31

/-- The number of days before a date, counted from the first day of the year one. -/
def Date.daysBefore (d : Date) : Nat :=
  let years := d.year - 1
  years * 365 + years / 4 - years / 100 + years / 400 +
    (((List.range (d.month - 1)).map fun m => daysInMonth d.year (m + 1)).foldl (· + ·) 0) +
    (d.day - 1)

/-- The number of microseconds before a moment in universal time, if its distance to that is
known. -/
def Moment.instant? (m : Moment) : Option Int :=
  m.offset.map fun offset =>
    let minutes : Int := m.date.daysBefore * 1440 + m.time.hour * 60 + m.time.minute - offset
    (minutes * 60 + m.time.second) * 1000000 + m.time.microsecond

/-- Whether two moments are the same: as instants, or as numbers if neither is an instant. -/
def Moment.sameInstant (a b : Moment) : Bool :=
  match a.instant?, b.instant? with
  | some m, some n => m == n
  | none, none => a == b
  | _, _ => false

/-- The date with given numbers, if there is one. -/
def Date.ofNumbers (year month day : Nat) : Except CalendarFault Date :=
  if year < 1 ∨ 9999 < year then .error (.year year)
  else if month < 1 ∨ 12 < month then .error .month
  else if day < 1 ∨ daysInMonth year month < day then .error .day
  else .ok ⟨year, month, day⟩

/-- The time with given numbers, if there is one. -/
def TimeOfDay.ofNumbers (hour minute second microsecond : Nat) : Except CalendarFault TimeOfDay :=
  if 23 < hour then .error .hour
  else if 59 < minute then .error .minute
  else if 59 < second then .error .second
  else .ok ⟨hour, minute, second, microsecond⟩

private def zeroPadded (width n : Nat) : String :=
  let s := toString n
  String.ofList (List.replicate (width - s.length) '0') ++ s

/-- The date as year, month and day. -/
def Date.text (d : Date) : String :=
  s!"{zeroPadded 4 d.year}-{zeroPadded 2 d.month}-{zeroPadded 2 d.day}"

/-- The time as hours, minutes and seconds, with six decimals if any is not zero. -/
def TimeOfDay.text (t : TimeOfDay) : String :=
  s!"{zeroPadded 2 t.hour}:{zeroPadded 2 t.minute}:{zeroPadded 2 t.second}" ++
    if t.microsecond = 0 then "" else "." ++ zeroPadded 6 t.microsecond

/-- A distance to universal time as signed hours and minutes. -/
def offsetText (minutes : Int) : String :=
  let n := minutes.natAbs
  (if minutes < 0 then "-" else "+") ++ zeroPadded 2 (n / 60) ++ ":" ++ zeroPadded 2 (n % 60)

/-- Date, a separator, time, and the distance to universal time if it is known. -/
def Moment.text (m : Moment) (separator : String) : String :=
  m.date.text ++ separator ++ m.time.text ++ (m.offset.map offsetText).getD ""

/-- A span of time as whole days, perhaps below zero, and the seconds left, which never are. -/
def spanLiteral (minutes : Int) : String :=
  let days := Int.fdiv minutes 1440
  let seconds := Int.fmod minutes 1440 * 60
  let parts := (if days = 0 then [] else [s!"days={days}"]) ++
    (if seconds = 0 then [] else [s!"seconds={seconds}"])
  let inner := if parts.isEmpty then "0" else ", ".intercalate parts
  "datetime.timedelta(" ++ inner ++ ")"

/-- The message for numbers that are no date or time. -/
def CalendarFault.message : CalendarFault → String
  | .year n => s!"year {n} is out of range"
  | .month => "month must be in 1..12"
  | .day => "day is out of range for month"
  | .hour => "hour must be in 0..23"
  | .minute => "minute must be in 0..59"
  | .second => "second must be in 0..59"
  | .offset minutes =>
    "offset must be a timedelta strictly between -timedelta(hours=24) and " ++
      s!"timedelta(hours=24), not {spanLiteral minutes}."

/-- The numbers of a date as a call. -/
def Date.literal (d : Date) : String := s!"datetime.date({d.year}, {d.month}, {d.day})"

private def timeArguments (t : TimeOfDay) : List String :=
  [toString t.hour, toString t.minute] ++
    (if t.second = 0 ∧ t.microsecond = 0 then [] else [toString t.second]) ++
    (if t.microsecond = 0 then [] else [toString t.microsecond])

/-- The numbers of a time as a call; zeros at the end are left out. -/
def TimeOfDay.literal (t : TimeOfDay) : String :=
  "datetime.time(" ++ ", ".intercalate (timeArguments t) ++ ")"

/-- The numbers of a moment as a call. -/
def Moment.literal (m : Moment) : String :=
  let zone := match m.offset with
    | none => []
    | some 0 => ["tzinfo=datetime.timezone.utc"]
    | some n => ["tzinfo=datetime.timezone(" ++ spanLiteral n ++ ")"]
  let numbers := [toString m.date.year, toString m.date.month, toString m.date.day]
  "datetime.datetime(" ++ ", ".intercalate (numbers ++ timeArguments m.time ++ zone) ++ ")"

end Scenario
