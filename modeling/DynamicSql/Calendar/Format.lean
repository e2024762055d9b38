import DynamicSql.Calendar.DateTime
import DynamicSql.Number.Power
import DynamicSql.Text.Blank

/-!
# Reading dates and times

A format is a list of items; the numbers that a text shows for them are collected and then checked
against the calendar. Numbers may have blanks in front and fewer digits than usual.
-/

namespace DynamicSql.Calendar

open Text

/-- The numbers of a date and time, as read. -/
structure Fields where
  year : Int := 0
  month : Nat := 0
  day : Nat := 0
  hour : Nat := 0
  minute : Nat := 0
  second : Nat := 0
  nanos : Nat := 0

/-- A piece of a format. `blanks` is any number of blank characters, and `fraction` a point and
digits, or nothing. -/
inductive Item where
  | year | month | day | hour | minute | second | fraction | blanks
  | literal (c : Char)

def readDigits? (least most : Nat) (s : List Char) : Option (Nat × List Char) :=
  let digits := (s.take most).takeWhile Char.isDigit
  if digits.length < least then none
  else (Number.digits? digits).map fun n => (n, s.drop digits.length)

/-- Reads a year: four digits at most, or any number of digits behind a sign. -/
private def readYear? (s : List Char) : Option (Int × List Char) :=
  match s with
  | '-' :: rest => (readDigits? 1 rest.length rest).map fun (n, rest) => (-(n : Int), rest)
  | '+' :: rest => (readDigits? 1 rest.length rest).map fun (n, rest) => ((n : Int), rest)
  | _ => (readDigits? 1 4 s).map fun (n, rest) => ((n : Int), rest)

/-- The nanoseconds that the digits behind a point denote; digits after the ninth are dropped. -/
def readFraction? (s : List Char) : Option (Nat × List Char) :=
  let digits := s.takeWhile Char.isDigit
  let first := digits.take 9
  (Number.digits? first).map fun n => (n * Number.pow10 (9 - first.length), s.drop digits.length)

def Item.read? (item : Item) (f : Fields) (s : List Char) : Option (Fields × List Char) :=
  let two := readDigits? 1 2 (trimStart s)
  match item with
  | .year => (readYear? (trimStart s)).map fun (n, rest) => ({ f with year := n }, rest)
  | .month => two.map fun (n, rest) => ({ f with month := n }, rest)
  | .day => two.map fun (n, rest) => ({ f with day := n }, rest)
  | .hour => two.map fun (n, rest) => ({ f with hour := n }, rest)
  | .minute => two.map fun (n, rest) => ({ f with minute := n }, rest)
  | .second => two.map fun (n, rest) => ({ f with second := n }, rest)
  | .fraction => match s with
    | '.' :: s => (readFraction? s).map fun (n, rest) => ({ f with nanos := n }, rest)
    | _ => some (f, s)
  | .blanks => some (f, trimStart s)
  | .literal c => match s with
    | c' :: rest => if c = c' then some (f, rest) else none
    | [] => none

def readItems? : List Item → Fields → List Char → Option (Fields × List Char)
  | [], f, s => some (f, s)
  | item :: items, f, s => do
    let (f, s) ← item.read? f s
    readItems? items f s

def Fields.date? (f : Fields) : Option Date := Date.ofYmd? f.year f.month f.day

def Fields.dateTime? (f : Fields) : Option DateTime := do
  let date ← f.date?
  let clock ← Clock.ofHms? f.hour f.minute f.second f.nanos
  return ⟨date, clock⟩

def readAll? (items : List Item) (s : List Char) : Option Fields :=
  match readItems? items {} s with
  | some (f, []) => some f
  | _ => none

/-- `year-month-day`. -/
def dateItems : List Item := [.year, .literal '-', .month, .literal '-', .day]

/-- `hour:minute:second`. -/
def clockItems : List Item := [.hour, .literal ':', .minute, .literal ':', .second]

/-- `year - month - day`, with blanks allowed around the strokes. -/
def looseDateItems : List Item :=
  [.year, .blanks, .literal '-', .month, .blanks, .literal '-', .day]

/-- `hour : minute : second` with a fraction, with blanks allowed around the colons. -/
def looseClockItems : List Item :=
  [.hour, .blanks, .literal ':', .minute, .blanks, .literal ':', .second, .fraction, .blanks]

/-- Reads `year-month-day`. -/
def readDate? (s : List Char) : Option Date := do (← readAll? dateItems s).date?

/-- Reads a date and time with blanks or a `T` between them, and a fraction if there is one. -/
def readDateTime? (s : List Char) : Option DateTime :=
  let spaced := dateItems ++ .blanks :: clockItems
  let joined := dateItems ++ .literal 'T' :: clockItems
  [spaced ++ [.fraction], spaced, joined ++ [.fraction], joined].findSome? fun items => do
    (← readAll? items s).dateTime?

/-- Reads a date with blanks allowed around the strokes. -/
def readLooseDate? (s : List Char) : Option Date := do
  (← readAll? (looseDateItems ++ [.blanks]) s).date?

/-- Reads a date and time joined by `T`, with blanks allowed inside. -/
def readLooseDateTime? (s : List Char) : Option DateTime := do
  (← readAll? (looseDateItems ++ .blanks :: .literal 'T' :: looseClockItems) s).dateTime?

/-! ## Times with an offset from the reference zone -/

/-- Reads `Z`, or a sign, two digits of hours, whatever `separator` removes, and two digits of
minutes; the result is in seconds. -/
def readOffset? (separator : List Char → Option (List Char)) (s : List Char) :
    Option (Int × List Char) :=
  match s with
  | 'Z' :: rest | 'z' :: rest => some (0, rest)
  | sign :: rest =>
    if sign = '+' ∨ sign = '-' ∨ sign = '−' then do
      let (hours, rest) ← readDigits? 2 2 rest
      let rest ← separator rest
      let (minutes, rest) ← readDigits? 2 2 rest
      if minutes < 60 then
        let seconds : Int := hours * 3600 + minutes * 60
        some (if sign = '+' then seconds else -seconds, rest)
      else none
    else none
  | [] => none

/-- The time in the reference zone, for an offset of less than a day. -/
private def settle? (f : Fields) (offset : Int) : Option DateTime :=
  if -86400 < offset ∧ offset < 86400 then do (← f.dateTime?).withoutOffset? offset else none

private def readColon? : List Char → Option (List Char)
  | ':' :: s => some s
  | _ => none

private def readExactly? (n : Nat) (s : List Char) : Option (Nat × List Char) := readDigits? n n s

/-- Reads the strict form `yyyy-mm-ddThh:mm:ss[.fraction]offset`; `T` may be a blank, and `T` and
`Z` may be in lower case. -/
def readInstant? (s : List Char) : Option DateTime := do
  let (year, s) ← readExactly? 4 s
  let (_, s) ← (Item.literal '-').read? {} s
  let (month, s) ← readExactly? 2 s
  let (_, s) ← (Item.literal '-').read? {} s
  let (day, s) ← readExactly? 2 s
  let s ← match s with
    | 'T' :: s | 't' :: s | ' ' :: s => some s
    | _ => none
  let (hour, s) ← readExactly? 2 s
  let s ← readColon? s
  let (minute, s) ← readExactly? 2 s
  let s ← readColon? s
  let (second, s) ← readExactly? 2 s
  let (f, s) ← Item.fraction.read? {} s
  let (offset, s) ← readOffset? readColon? s
  if s.isEmpty then
    settle? { f with year, month, day, hour, minute, second } offset
  else none

/-- Reads a date, a `T` or blank, a time and an offset or `UTC`, with blanks allowed inside. -/
def readLooseInstant? (s : List Char) : Option DateTime := do
  let (f, s) ← readItems? looseDateItems {} s
  let s ← match s with
    | 'T' :: s | 't' :: s | ' ' :: s => some s
    | _ => none
  let (f, s) ← readItems? looseClockItems f s
  let (offset, s) ←
    if (s.take 3).map Char.toLower = ['u', 't', 'c'] then some (0, s.drop 3)
    else readOffset? (fun s => some (s.dropWhile fun c => c = ':' || isBlank c)) s
  if (trimStart s).isEmpty then settle? f offset else none

end DynamicSql.Calendar
