/-!
# Dates and moments

The proleptic Gregorian calendar from year 1 to year 9999: dates, their day numbers, and moments
with an optional offset from universal time.  Two moments are the same if they denote the same
instant; one without an offset is never the same as one with.
-/

namespace FormEngine

/-- A day of the calendar. -/
structure Date where
  year : Nat
  month : Nat
  day : Nat
deriving DecidableEq, Repr, Inhabited

/-- A moment: a day, a time of day to the microsecond, and the offset from universal time in
seconds if one is known. -/
structure DateTime where
  date : Date
  hour : Nat
  minute : Nat
  second : Nat
  microsecond : Nat
  offset : Option Int
deriving DecidableEq, Repr, Inhabited

/-- Whether a year has a 29th of February. -/
def isLeapYear (year : Nat) : Bool :=
  year % 4 = 0 && (year % 100 ≠ 0 || year % 400 = 0)

/-- The number of days of a month. -/
def daysInMonth (year month : Nat) : Nat :=
  match month with
  | 2 => if isLeapYear year then 29 else 28
  | 4 | 6 | 9 | 11 => 30
  | _ => 31

namespace Date

/-- Why three numbers are no date. -/
inductive Fault where
  | year (got : Nat)
  | month
  | day
deriving DecidableEq, Repr

/-- The text of a fault. -/
def Fault.message : Fault → String
  | .year got => "year " ++ toString got ++ " is out of range"
  | .month => "month must be in 1..12"
  | .day => "day is out of range for month"

/-- The date of three numbers, or the first of them that is out of range. -/
def ofParts (year month day : Nat) : Except Fault Date :=
  if year < 1 ∨ 9999 < year then .error (.year year)
  else if month < 1 ∨ 12 < month then .error .month
  else if day < 1 ∨ daysInMonth year month < day then .error .day
  else .ok ⟨year, month, day⟩

/-- The number of days before the first of January of a year. -/
def daysBeforeYear (year : Nat) : Nat :=
  let y := year - 1
  y * 365 + y / 4 - y / 100 + y / 400

/-- The number of days of a year before a month. -/
def daysBeforeMonth (year month : Nat) : Nat :=
  (List.range (month - 1)).foldl (fun n m => n + daysInMonth year (m + 1)) 0

/-- The day's number, the first of January of year 1 being 1. -/
def dayNumber (d : Date) : Nat :=
  daysBeforeYear d.year + daysBeforeMonth d.year d.month + d.day

/-- The day of the week, Monday being 0. -/
def weekday (d : Date) : Nat := (d.dayNumber + 6) % 7

/-- The day after, within the calendar's range. -/
def next? (d : Date) : Option Date :=
  if d.day < daysInMonth d.year d.month then some { d with day := d.day + 1 }
  else if d.month < 12 then some ⟨d.year, d.month + 1, 1⟩
  else if d.year < 9999 then some ⟨d.year + 1, 1, 1⟩
  else none

/-- The day `n` days later, within the calendar's range. -/
def addDays? (d : Date) : Nat → Option Date
  | 0 => some d
  | n + 1 => d.next?.bind fun d => d.addDays? n

end Date

/-! ## Moments -/

/-- A number in decimal, with leading zeros up to a width. -/
def padded (width n : Nat) : String :=
  let text := toString n
  String.ofList (List.replicate (width - text.length) '0') ++ text

/-- The text of a date: four, two and two digits. -/
def Date.render (d : Date) : String :=
  padded 4 d.year ++ "-" ++ padded 2 d.month ++ "-" ++ padded 2 d.day

namespace DateTime

/-- Microseconds from the start of the calendar, in universal time if an offset is known. -/
def instant (t : DateTime) : Int :=
  let seconds : Int :=
    (t.date.dayNumber : Int) * 86400 + t.hour * 3600 + t.minute * 60 + t.second
  (seconds - t.offset.getD 0) * 1000000 + t.microsecond

/-- Whether two moments denote the same instant, both or neither having an offset. -/
def same (s t : DateTime) : Bool :=
  s.offset.isSome == t.offset.isSome && s.instant == t.instant

/-- The text of an offset: a sign, hours and minutes, and seconds if there are any. -/
def renderOffset (offset : Int) : String :=
  let n := offset.natAbs
  let seconds := n % 60
  (if offset < 0 then "-" else "+") ++ padded 2 (n / 3600) ++ ":" ++ padded 2 (n / 60 % 60)
    ++ (if seconds = 0 then "" else ":" ++ padded 2 seconds)

/-- The text of a moment: date and time joined by `T`, microseconds if there are any, and the
offset if one is known. -/
def render (t : DateTime) : String :=
  t.date.render ++ "T" ++ padded 2 t.hour ++ ":" ++ padded 2 t.minute ++ ":" ++ padded 2 t.second
    ++ (if t.microsecond = 0 then "" else "." ++ padded 6 t.microsecond)
    ++ (t.offset.map renderOffset).getD ""

end DateTime

end FormEngine
