import DynamicSql.Number.Decimal.Basic
import DynamicSql.Number.Integer

/-!
# Texts of decimal numbers

Reading keeps the scale the text shows. Writing is positional, except for numbers whose digits begin
far behind the point or end far before it.
-/

namespace DynamicSql.Number.Decimal

/-- A whole number of digits and underscores, led by a digit, with an optional sign. -/
private def readUnscaled? (s : List Char) : Option Int :=
  let body : List Char → Option Nat
    | '_' :: _ => none
    | s => digits? (s.filter (· ≠ '_'))
  match s with
  | '-' :: s => (body s).map fun n => -(n : Int)
  | '+' :: s => (body s).map Int.ofNat
  | s => (body s).map Int.ofNat

/-- Reads digits with an optional point and exponent. Underscores may stand after the first digit,
and a point needs no digits on one of its sides. -/
def read? (s : List Char) : Option Decimal :=
  let base := s.takeWhile fun c => c ≠ 'e' ∧ c ≠ 'E'
  let exponent? := match s.drop base.length with
    | [] => some 0
    | _ :: rest => readInt? rest
  let whole := base.takeWhile (· ≠ '.')
  let fraction := (base.drop whole.length).drop 1
  do
    let e ← exponent?
    let unscaled ← readUnscaled? (whole ++ fraction)
    let scale := ((fraction.filter (· ≠ '_')).length : Int) - e
    if -(pow2 127 : Int) ≤ e ∧ e < pow2 127 ∧ -(pow2 63 : Int) ≤ scale ∧ scale < pow2 63 then
      some ⟨unscaled, scale⟩
    else none

/-- Most zeros that are written between the point and the first digit. -/
def maxLeadingZeros : Int := 5

def maxTrailingZeros : Int := 15

/-- The digits of `magnitude` with the point `scale` places from the right. -/
private def positionalDigits (digits : List Char) (scale : Int) : List Char :=
  if scale ≤ 0 then digits ++ List.replicate (-scale).toNat '0'
  else
    let places := scale.toNat
    if places < digits.length then
      digits.take (digits.length - places) ++ '.' :: digits.drop (digits.length - places)
    else '0' :: '.' :: List.replicate (places - digits.length) '0' ++ digits

/-- The text of a decimal number. Zero is `0` at every scale. A number whose first digit follows
more than `maxLeadingZeros` zeros has the form `d.ddE-n`; one that ends in more than
`maxTrailingZeros` unwritten zeros has the form `ddde+n`. -/
def text (a : Decimal) : String :=
  let digits := Nat.toDigits 10 a.unscaled.natAbs
  let sign := if a.unscaled < 0 then "-" else ""
  if a.unscaled = 0 then "0"
  else if maxLeadingZeros < a.scale - digits.length then
    let mantissa := match digits with
      | c :: d :: rest => c :: '.' :: d :: rest
      | ds => ds
    sign ++ String.ofList mantissa ++ "E-" ++ Nat.repr (a.scale - digits.length + 1).toNat
  else if maxTrailingZeros < -a.scale then
    sign ++ String.ofList digits ++ "e+" ++ Nat.repr (-a.scale).toNat
  else sign ++ String.ofList (positionalDigits digits a.scale)

end DynamicSql.Number.Decimal
