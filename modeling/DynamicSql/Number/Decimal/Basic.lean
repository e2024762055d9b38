import DynamicSql.Number.Binary64

/-!
# Decimal numbers

A decimal number is a whole number over a power of ten, `unscaled / 10 ^ scale`. Equality of numbers
ignores the scale, but the scale is kept and shown; each operation says which scale its result has.
-/

namespace DynamicSql.Number

/-- The number `unscaled / 10 ^ scale`. -/
structure Decimal where
  unscaled : Int
  scale : Int
  deriving DecidableEq, Repr

namespace Decimal

def ofInt (n : Int) : Decimal := ⟨n, 0⟩

/-- The unscaled whole number of the same decimal at scale `s`, which must not be below its own. -/
def unscaledAt (a : Decimal) (s : Int) : Int := a.unscaled * pow10 (s - a.scale).toNat

/-- The order of the numbers, whatever their scales. -/
def order (a b : Decimal) : Ordering :=
  let s := max a.scale b.scale
  compare (a.unscaledAt s) (b.unscaledAt s)

def sameNumber (a b : Decimal) : Bool := order a b == .eq

def isOne (a : Decimal) : Bool := sameNumber a ⟨1, 0⟩

/-- The sum, at the larger scale. -/
def add (a b : Decimal) : Decimal :=
  let s := max a.scale b.scale
  ⟨a.unscaledAt s + b.unscaledAt s, s⟩

/-- The difference, at the larger scale; taking away zero changes nothing, and zero less a number is
the number with its sign changed. -/
def sub (a b : Decimal) : Decimal :=
  if b.unscaled = 0 then a
  else if a.unscaled = 0 then ⟨-b.unscaled, b.scale⟩
  else
    let s := max a.scale b.scale
    ⟨a.unscaledAt s - b.unscaledAt s, s⟩

/-- Zero less the number. -/
def neg (a : Decimal) : Decimal := sub ⟨0, 0⟩ a

/-- Whether the number is one written with at most 38 decimal places. -/
def isPlainOne (a : Decimal) : Bool := 0 ≤ a.scale && a.scale ≤ 38 && a.isOne

/-- The product; scales add, and a factor that is one leaves the other as it is. -/
def mul (a b : Decimal) : Decimal :=
  if a.isPlainOne then b
  else if b.isPlainOne then a
  else ⟨a.unscaled * b.unscaled, a.scale + b.scale⟩

def digitCount (n : Nat) : Nat := (Nat.toDigits 10 n).length

def quotientDigits : Nat := 100

/-- Continues a long division by `den`: brings down digits until nothing remains or the quotient has
as many digits as `fuel` allows, and then rounds by the next digit, five up. -/
private def longDivision (den : Nat) : Nat → Nat → Nat → Int → Nat × Int
  | 0, quotient, remainder, scale =>
    (if 5 ≤ remainder * 10 / den then quotient + 1 else quotient, scale)
  | fuel + 1, quotient, remainder, scale =>
    if remainder = 0 then (quotient, scale)
    else
      let next := remainder * 10
      longDivision den fuel (quotient * 10 + next / den) (next % den) (scale + 1)

/-- The quotient of two positive whole numbers, at a scale at least `scale`. -/
private def quotientOf (num den : Nat) (scale : Int) : Nat × Int :=
  -- shift the dividend until it is at least the divisor
  let gap := digitCount den - digitCount num
  let gap := if num * pow10 gap < den then gap + 1 else gap
  let num := num * pow10 gap
  let quotient := num / den
  longDivision den (quotientDigits - digitCount quotient) quotient (num % den) (scale + gap)

/-- The quotient, exact if it has at most `quotientDigits` digits. The divisor is not zero. -/
def div (a b : Decimal) : Decimal :=
  if a.unscaled = 0 ∨ b.isOne then a
  else
    let scale := a.scale - b.scale
    if a.unscaled = b.unscaled then ⟨1, scale⟩
    else
      let (q, s) := quotientOf a.unscaled.natAbs b.unscaled.natAbs scale
      ⟨if (a.unscaled < 0) = (b.unscaled < 0) then q else -(q : Int), s⟩

/-- The remainder of the truncated quotient, at the larger scale. The divisor is not zero. -/
def rem (a b : Decimal) : Decimal :=
  let s := max a.scale b.scale
  ⟨Int.tmod (a.unscaledAt s) (b.unscaledAt s), s⟩

/-- The value as a whole number, if it is one. -/
def toInt? (a : Decimal) : Option Int :=
  if a.scale ≤ 0 then some (a.unscaledAt 0)
  else
    let p : Int := pow10 a.scale.toNat
    if a.unscaled % p = 0 then some (a.unscaled / p) else none

/-- Halves `m` as long as it is even, at most `fuel` times; counts the halvings. -/
private def halve : Nat → Nat → Nat × Nat
  | 0, m => (m, 0)
  | fuel + 1, m =>
    if m % 2 = 0 ∧ m ≠ 0 then
      let (m, k) := halve fuel (m / 2)
      (m, k + 1)
    else (m, 0)

/-- The exact value of a finite float. A fraction has as many decimal places as its denominator has
factors of two; a whole number has none. -/
def ofFloat? (x : Float) : Option Decimal :=
  match Binary64.decode x with
  | .finite negative m e =>
    let signed (n : Nat) : Int := if negative then -(n : Int) else n
    if 0 ≤ e then some ⟨signed (m * pow2 e.toNat), 0⟩
    else
      let (odd, halvings) := halve (-e).toNat m
      let places := (-e).toNat - halvings
      if m = 0 then some ⟨0, 0⟩ else some ⟨signed (odd * Nat.pow 5 places), places⟩
  | _ => none

end Decimal

end DynamicSql.Number
