import DynamicSql.Number.Decimal.Basic
import DynamicSql.Number.FloatText

/-!
# Floats of decimal numbers

A whole number becomes the nearest float. Of any other number only the leading digits are taken. If
decimal places are left, the float nearest to these digits is the result. Otherwise it is the float
of the digits times a power of ten built by rounded products, which may lie a few units beside the
nearest float.
-/

namespace DynamicSql.Number

private def powerFrom (product square : Float) (n : Nat) : Float :=
  if n = 0 then product
  else powerFrom (if n % 2 = 1 then product * square else product) (square * square) (n / 2)
termination_by n
decreasing_by omega

/-- `base` to the power `n` by repeated squaring, the powers for the low bits of `n` first. Each
product is rounded. -/
def Binary64.power (base : Float) (n : Nat) : Float := powerFrom 1.0 base n

namespace Decimal

/-- The number of decimal digits of a positive `n`, or one less: the number of its bits and one
more, times the decimal logarithm of two. -/
def digitEstimate (n : Nat) : Nat := (n.log2 + 2) * 30102999566398120 / pow10 17

/-- Digits at the end of a long number are left out in groups of this size. -/
def digitGroup : Nat := 19

/-- The number of digits, as estimated, that are never left out. -/
def leadingDigits : Nat := 25

/-- How many digits at the end of `n` are left out. -/
def droppedDigits (n : Nat) : Nat := (digitEstimate n - leadingDigits) / digitGroup * digitGroup

/-- The decimal without the digits at its end that do not take part in its float. -/
def leading (a : Decimal) : Decimal :=
  let dropped := droppedDigits a.unscaled.natAbs
  ⟨a.unscaled.tdiv (pow10 dropped), a.scale - dropped⟩

/-- The float for a decimal number; only a whole number at scale 0 has all of its digits taken.
Decimal places are counted in 32 bits, beyond which the count starts again at its other end. -/
def toFloat (a : Decimal) : Float :=
  if a.unscaled = 0 then 0.0
  else if a.scale = 0 then Binary64.ofInt a.unscaled
  else
    let b := a.leading
    if b.scale < 0 then Binary64.ofInt b.unscaled * Binary64.power 10.0 (-b.scale).toNat
    else Binary64.ofDecimal (b.unscaled < 0) b.unscaled.natAbs ((-b.scale).bmod (pow2 32))

end Decimal

end DynamicSql.Number
