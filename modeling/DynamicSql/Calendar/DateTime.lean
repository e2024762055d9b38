import DynamicSql.Calendar.Date

/-!
# Date and time of day

A time of day is a second of the day and a number of nanoseconds. A leap second is the last second
of a minute with a thousand million nanoseconds more, and is shown as second 60.
-/

namespace DynamicSql.Calendar

def secondNanos : Nat := 1000000000

/-- A second of the day, and nanoseconds; from `secondNanos` up they belong to a leap second. -/
structure Clock where
  second : Nat
  nanos : Nat
  deriving DecidableEq

/-- A time on a day. -/
structure DateTime where
  date : Date
  clock : Clock
  deriving DecidableEq

namespace Clock

/-- The time with these numbers; second 60 is a leap second. -/
def ofHms? (hour minute second nanos : Nat) : Option Clock :=
  if hour < 24 ∧ minute < 60 ∧ second ≤ 60 then
    let base := hour * 3600 + minute * 60
    if second = 60 then some ⟨base + 59, nanos + secondNanos⟩ else some ⟨base + second, nanos⟩
  else none

def order (a b : Clock) : Ordering := (compare a.second b.second).then (compare a.nanos b.nanos)

/-- A fraction of a second: nothing, or three, six or nine digits. -/
def fractionText (nanos : Nat) : String :=
  if nanos = 0 then ""
  else if nanos % 1000000 = 0 then "." ++ Number.padded 3 (nanos / 1000000)
  else if nanos % 1000 = 0 then "." ++ Number.padded 6 (nanos / 1000)
  else "." ++ Number.padded 9 nanos

/-- The text `hour:minute:second` with a fraction if there is one. -/
def text (c : Clock) : String :=
  let leap := c.nanos / secondNanos
  Number.padded 2 (c.second / 3600) ++ ":" ++ Number.padded 2 (c.second / 60 % 60) ++ ":" ++
    Number.padded 2 (c.second % 60 + leap) ++ fractionText (c.nanos % secondNanos)

end Clock

namespace DateTime

def order (a b : DateTime) : Ordering := (a.date.order b.date).then (a.clock.order b.clock)

/-- The time in the reference zone when a clock that is `offset` seconds ahead of it shows `t`. -/
def withoutOffset? (t : DateTime) (offset : Int) : Option DateTime :=
  let second : Int := t.clock.second - offset
  if second < 0 then
    t.date.previous?.map fun d => ⟨d, ⟨(second + 86400).toNat, t.clock.nanos⟩⟩
  else if second < 86400 then some ⟨t.date, ⟨second.toNat, t.clock.nanos⟩⟩
  else t.date.next?.map fun d => ⟨d, ⟨(second - 86400).toNat, t.clock.nanos⟩⟩

/-- Date and time, with `separator` between them. -/
def text (t : DateTime) (separator : String) : String :=
  t.date.text ++ separator ++ t.clock.text

end DateTime

end DynamicSql.Calendar
