import DynamicSql.Number.Integer

/-!
# Calendar dates

Days of the Gregorian calendar, extended to all years from `-262143` to `262142`.
-/

namespace DynamicSql.Calendar

/-- Whether a year has a 29th of February. -/
def isLeapYear (year : Int) : Bool := year % 4 == 0 && (year % 100 != 0 || year % 400 == 0)

/-- The number of days of a month, 0 for a number that is no month. -/
def daysInMonth (year : Int) (month : Nat) : Nat :=
  match month with
  | 2 => if isLeapYear year then 29 else 28
  | 4 | 6 | 9 | 11 => 30
  | 1 | 3 | 5 | 7 | 8 | 10 | 12 => 31
  | _ => 0

def IsDay (year : Int) (month day : Nat) : Prop :=
  -262143 ≤ year ∧ year ≤ 262142 ∧ 1 ≤ day ∧ day ≤ daysInMonth year month

instance (year : Int) (month day : Nat) : Decidable (IsDay year month day) := by
  unfold IsDay; infer_instance

/-- A day of the calendar. -/
structure Date where
  year : Int
  month : Nat
  day : Nat
  isDay : IsDay year month day
  deriving DecidableEq

namespace Date

/-- The day with these numbers, if there is one. -/
def ofYmd? (year : Int) (month day : Nat) : Option Date :=
  if h : IsDay year month day then some ⟨year, month, day, h⟩ else none

def order (a b : Date) : Ordering :=
  (compare a.year b.year).then ((compare a.month b.month).then (compare a.day b.day))

/-- The day after, if the calendar has one. -/
def next? (d : Date) : Option Date :=
  (ofYmd? d.year d.month (d.day + 1)).orElse fun _ =>
    (ofYmd? d.year (d.month + 1) 1).orElse fun _ => ofYmd? (d.year + 1) 1 1

/-- The day before, if the calendar has one. -/
def previous? (d : Date) : Option Date :=
  if 1 < d.day then ofYmd? d.year d.month (d.day - 1)
  else if 1 < d.month then ofYmd? d.year (d.month - 1) (daysInMonth d.year (d.month - 1))
  else ofYmd? (d.year - 1) 12 31

/-- A year of four digits; years outside `0` to `9999` carry a sign. -/
def yearText (year : Int) : String :=
  if 0 ≤ year ∧ year ≤ 9999 then Number.padded 4 year.toNat
  else (if year < 0 then "-" else "+") ++ Number.padded 4 year.natAbs

/-- The text `year-month-day`. -/
def text (d : Date) : String :=
  yearText d.year ++ "-" ++ Number.padded 2 d.month ++ "-" ++ Number.padded 2 d.day

end Date

end DynamicSql.Calendar
