import DynamicSql.Number.Shortest
import DynamicSql.Number.Integer

/-!
# Float texts

Floats are written with the fewest digits that read back, either always positionally or, in JSON,
with an exponent where the decimal point would stand far from the digits. Reading is correctly
rounded.
-/

namespace DynamicSql.Number.Binary64

private def zeros (n : Nat) : List Char := List.replicate n '0'

/-- The digits with the decimal point where the exponent puts it; `tail` follows a whole number. -/
private def positional (d : Digits) (tail : String) : String :=
  let ds := Nat.toDigits 10 d.digits
  if 0 ≤ d.exponent then String.ofList (ds ++ zeros d.exponent.toNat) ++ tail
  else
    let point := (ds.length : Int) + d.exponent
    if 0 < point then
      String.ofList (ds.take point.toNat ++ '.' :: ds.drop point.toNat)
    else String.ofList ('0' :: '.' :: zeros (-point).toNat ++ ds)

/-- Mantissa with one digit before the point, and a signed exponent. -/
private def scientific (d : Digits) : String :=
  let ds := Nat.toDigits 10 d.digits
  let e : Int := d.exponent + ds.length - 1
  let mantissa := match ds with
    | [] => []
    | [c] => [c]
    | c :: rest => c :: '.' :: rest
  String.ofList mantissa ++ (if e < 0 then "e-" else "e+") ++ Nat.repr e.natAbs

/-- The plain text of a float: never an exponent, no point in a whole number, and the greater of two
equally near numbers. -/
def plainText (x : Float) : String :=
  match decode x with
  | .nan => "NaN"
  | .infinite negative => if negative then "-inf" else "inf"
  | .finite negative m e =>
    (if negative then "-" else "") ++ (if m = 0 then "0" else positional (shortest .up m e) "")

/-- The JSON text of a finite float: an exponent from `1e16` up and below `1e-5`, and otherwise a
point in every number; of two equally near numbers the one that ends in an even digit. Other floats
have no JSON number. -/
def jsonText? (x : Float) : Option String :=
  match decode x with
  | .finite negative m e =>
    let body :=
      if m = 0 then "0.0"
      else
        let d := shortest .even m e
        let point := d.exponent + (Nat.toDigits 10 d.digits).length
        if -5 < point ∧ point ≤ 16 then positional d ".0" else scientific d
    some ((if negative then "-" else "") ++ body)
  | _ => none

def ofDecimal (negative : Bool) (digits : Nat) (exponent : Int) : Float :=
  let size : Int := (Nat.toDigits 10 digits).length
  if digits = 0 ∨ exponent + size < -400 then ofRatio negative 0 1
  else if exponent + size > 400 then ofRatio negative (pow10 400) 1
  else ofRatio negative (digits * pow10 exponent.toNat) (pow10 (-exponent).toNat)

/-- Splits a run of ASCII digits off the text. -/
def spanDigits (s : List Char) : List Char × List Char := s.span Char.isDigit

/-- The exponent part of a number: nothing, or `e` and a signed whole number. -/
private def readExponent? : List Char → Option Int
  | [] => some 0
  | 'e' :: s | 'E' :: s => readInt? s
  | _ => none

/-- Reads a float without sign: an infinity or NaN by name, or digits with an optional point, of
which at least one must stand before or after it, and an optional exponent. -/
private def readUnsigned? (negative : Bool) (s : List Char) : Option Float :=
  match String.ofList (s.map Char.toLower) with
  | "inf" | "infinity" => some (if negative then -1.0 / 0.0 else 1.0 / 0.0)
  | "nan" => some (0.0 / 0.0)
  | _ =>
    let (whole, rest) := spanDigits s
    let (fraction, rest) := match rest with
      | '.' :: rest => spanDigits rest
      | _ => ([], rest)
    do
      let digits ← digits? (whole ++ fraction)
      let e ← readExponent? rest
      return ofDecimal negative digits (e - fraction.length)

def read? : List Char → Option Float
  | '-' :: s => readUnsigned? true s
  | '+' :: s => readUnsigned? false s
  | s => readUnsigned? false s

end DynamicSql.Number.Binary64
