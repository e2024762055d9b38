import DynamicSql.Number.Power

/-!
# Binary floating point numbers

A finite float is a whole number times a power of two. `decode` reads off sign, whole number and
power; `ofRatio` rounds a quotient of whole numbers to the nearest float, a tie to the even one.
-/

namespace DynamicSql.Number.Binary64

/-- What the 64 bits of a float mean. -/
inductive Kind where
  | finite (negative : Bool) (mantissa : Nat) (exponent : Int)
  | infinite (negative : Bool)
  | nan

/-- The meaning of a float: `± mantissa · 2 ^ exponent`, an infinity, or not a number. -/
def decode (x : Float) : Kind :=
  let bits := x.toBits.toNat
  let negative := bits / pow2 63 == 1
  let biased : Nat := bits / pow2 52 % pow2 11
  let fraction : Nat := bits % pow2 52
  if biased = 2047 then if fraction = 0 then .infinite negative else .nan
  else if biased = 0 then .finite negative fraction (-1074)
  else .finite negative (fraction + pow2 52) ((biased : Int) - 1075)

/-- `num / den` rounded to a whole number, a tie to the even one. -/
def roundHalfEven (num den : Nat) : Nat :=
  let q := num / den
  let r := num % den
  if 2 * r < den then q else if 2 * r > den then q + 1 else if q % 2 = 0 then q else q + 1

/-- The float nearest to `num / den`; too large a quotient gives infinity. -/
def ofRatio (negative : Bool) (num den : Nat) : Float :=
  let signBits := if negative then pow2 63 else 0
  if num = 0 ∨ den = 0 then Float.ofBits (UInt64.ofNat signBits)
  else
    -- the power of two at which the quotient has at most 53 bits, and at least the smallest power
    let guess : Int := (num.log2 : Int) - den.log2 - 53
    let scaled (e : Int) : Nat × Nat := (num * pow2 (-e).toNat, den * pow2 e.toNat)
    let (n, d) := scaled guess
    let e := max (-1074) (if n / d < pow2 53 then guess else guess + 1)
    let (n, d) := scaled e
    let m := roundHalfEven n d
    let bits :=
      if e > 971 then 2047 * pow2 52
      else if m < pow2 52 then m
      else min (2047 * pow2 52) ((e + 1074).toNat * pow2 52 + m)
    Float.ofBits (UInt64.ofNat (signBits + bits))

def ofInt (n : Int) : Float := ofRatio (n < 0) n.natAbs 1

def isWhole (x : Float) : Bool :=
  match decode x with
  | .finite _ m e => e ≥ 0 || m % pow2 (-e).toNat == 0
  | _ => false

/-- The whole number a float lies at or just above, going toward zero; 0 if it is not finite. -/
def truncate (x : Float) : Int :=
  match decode x with
  | .finite negative m e =>
    let n : Int := m * pow2 e.toNat / pow2 (-e).toNat
    if negative then -n else n
  | _ => 0

/-- The remainder of the truncated quotient, exact, with the sign of the dividend. -/
def remainder (x y : Float) : Float :=
  match decode x, decode y with
  | .finite negative mx ex, .finite _ my ey =>
    if my = 0 then 0.0 / 0.0
    else if mx = 0 then x
    else
      let e := min ex ey
      let r := (mx * pow2 (ex - e).toNat) % (my * pow2 (ey - e).toNat)
      ofRatio negative (r * pow2 e.toNat) (pow2 (-e).toNat)
  | .finite .., .infinite _ => x
  | _, _ => 0.0 / 0.0

end DynamicSql.Number.Binary64
