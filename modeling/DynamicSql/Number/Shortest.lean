import DynamicSql.Number.Binary64

/-!
# Shortest decimal text of a float

Of the decimal numbers that read back as the float, those with the fewest digits are taken, and of
these the nearest; a format decides which of two equally near numbers it writes. The reals that
round to a float `m · 2 ^ e` form an interval around it; for each number of digits the two
neighbours of the float on the decimal grid are tested against it.
-/

namespace DynamicSql.Number.Binary64

/-- A positive decimal number `digits · 10 ^ exponent`. -/
structure Digits where
  digits : Nat
  exponent : Int

/-- The interval of reals that round to a float: the float, its lower and its upper end, over one
denominator, and whether the ends belong to it. -/
structure Interval where
  value : Nat
  lower : Nat
  upper : Nat
  denominator : Nat
  closed : Bool

def interval (mantissa : Nat) (exponent : Int) : Interval :=
  let up := pow2 (exponent - 2).toNat
  let below := if mantissa = pow2 52 ∧ exponent > -1074 then 1 else 2
  ⟨4 * mantissa * up, (4 * mantissa - below) * up, (4 * mantissa + 2) * up,
    pow2 (2 - exponent).toNat, mantissa % 2 == 0⟩

def Interval.contains (i : Interval) (c : Nat) (t : Int) : Bool :=
  let p := c * pow10 t.toNat * i.denominator
  let down := pow10 (-t).toNat
  if i.closed then i.lower * down ≤ p && p ≤ i.upper * down
  else i.lower * down < p && p < i.upper * down

/-- The greatest `k` with `10 ^ k ≤ value`. -/
def Interval.decade (i : Interval) : Int :=
  if i.denominator ≤ i.value then ((Nat.repr (i.value / i.denominator)).length : Int) - 1
  else
    let k := (Nat.repr (i.denominator / i.value)).length
    if i.denominator ≤ i.value * pow10 (k - 1) then -((k : Int) - 1) else -(k : Int)

/-- The choice between two decimal numbers that are equally near to a float. -/
inductive Tie where
  /-- The greater of the two. -/
  | up
  /-- The one whose last digit is even. -/
  | even
  deriving DecidableEq, Repr

/-- Whether the lower of two neighbours is taken when the value lies halfway between them. -/
def Tie.takesLower (tie : Tie) (lower : Nat) : Bool :=
  match tie with
  | .up => false
  | .even => lower % 2 == 0

/-- The nearer of the value's two neighbours on the grid of step `10 ^ t` that reads back. -/
def Interval.gridHit (i : Interval) (tie : Tie) (t : Int) : Option Nat :=
  let num := i.value * pow10 (-t).toNat
  let den := i.denominator * pow10 t.toNat
  let floor := num / den
  let rest := 2 * (num % den)
  let nearer :=
    if rest < den || (rest == den && tie.takesLower floor) then [floor, floor + 1]
    else [floor + 1, floor]
  nearer.find? fun c => c ≠ 0 && i.contains c t

/-- Removes zeros from the end of the digits. -/
def Digits.strip : Nat → Digits → Digits
  | 0, d => d
  | fuel + 1, d =>
    if d.digits % 10 = 0 ∧ d.digits ≠ 0 then strip fuel ⟨d.digits / 10, d.exponent + 1⟩ else d

/-- The shortest decimal number that reads back as `mantissa · 2 ^ exponent`. -/
def shortest (tie : Tie) (mantissa : Nat) (exponent : Int) : Digits :=
  let i := interval mantissa exponent
  let decade := i.decade
  let hit := (List.range 17).findSome? fun (n : Nat) =>
    let t := decade - n
    (i.gridHit tie t).map fun c => (⟨c, t⟩ : Digits)
  (hit.getD ⟨mantissa, 0⟩).strip 18

end DynamicSql.Number.Binary64
