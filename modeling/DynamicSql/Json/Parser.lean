import DynamicSql.Json.Basic
import DynamicSql.Number.FloatText
import DynamicSql.Text.Utf8

/-!
# Reading JSON

A text is one document with blanks around it. Arrays and objects may be nested 127 deep. A number
without fraction and exponent that fits 64 bits, signed or not, is a whole number, and every other
number is a float; one that no float is large enough for is refused.
-/

namespace DynamicSql.Json

/-- Removes the blanks that JSON allows between its parts. -/
def skipBlanks (s : List Char) : List Char :=
  s.dropWhile fun c => c = ' ' ∨ c = '\n' ∨ c = '\t' ∨ c = '\r'

/-! ## Strings -/

/-- The four hexadecimal digits at the head of the text. -/
private def hexQuad? (s : List Char) : Option (Nat × List Char) :=
  if (s.take 4).length = 4 then (Text.hexNumber? (s.take 4)).map fun n => (n, s.drop 4) else none

/-- The character of a code unit, or of a pair of surrogates whose second follows as an escape. -/
private def escapedUnit? (s : List Char) : Option (Char × List Char) := do
  let (n, rest) ← hexQuad? s
  if n < 0xd800 ∨ 0xdfff < n then return (Char.ofNat n, rest)
  else if n < 0xdc00 then
    match rest with
    | '\\' :: 'u' :: rest =>
      let (low, rest) ← hexQuad? rest
      if 0xdc00 ≤ low ∧ low ≤ 0xdfff then
        return (Char.ofNat (0x10000 + (n - 0xd800) * 0x400 + (low - 0xdc00)), rest)
      else none
    | _ => none
  else none

/-- The character a backslash and what follows it stand for. -/
private def escaped? : List Char → Option (Char × List Char)
  | '"' :: s => some ('"', s)
  | '\\' :: s => some ('\\', s)
  | '/' :: s => some ('/', s)
  | 'b' :: s => some ('\x08', s)
  | 'f' :: s => some ('\x0c', s)
  | 'n' :: s => some ('\n', s)
  | 'r' :: s => some ('\r', s)
  | 't' :: s => some ('\t', s)
  | 'u' :: s => escapedUnit? s
  | _ => none

/-- The characters up to the closing quotation mark, reversed in front of `acc`; `fuel` bounds their
number. -/
private def stringBody? : Nat → List Char → List Char → Option (String × List Char)
  | 0, _, _ => none
  | fuel + 1, acc, s =>
    match s with
    | [] => none
    | '"' :: rest => some (String.ofList acc.reverse, rest)
    | '\\' :: rest => do
      let (c, rest) ← escaped? rest
      stringBody? fuel (c :: acc) rest
    | c :: rest => if c.toNat < 0x20 then none else stringBody? fuel (c :: acc) rest

/-- A string, behind its opening quotation mark. -/
def stringLiteral? (s : List Char) : Option (String × List Char) := stringBody? (s.length + 1) [] s

/-! ## Numbers -/

/-- The number that continues `acc` with digits, up to the first digit with which it does not fit 64
bits, and the number of digits left over. -/
private def significand (acc : Nat) : List Char → Nat × Nat
  | [] => (acc, 0)
  | c :: rest =>
    let next := acc * 10 + (c.toNat - '0'.toNat)
    if next < Number.pow2 64 then significand next rest else (acc, rest.length + 1)

/-- Multiplies by a power of ten in at most a few roundings; none if the result is too large. -/
private def scaleByTen? : Nat → Float → Int → Option Float
  | 0, x, _ => some x
  | fuel + 1, x, e =>
    if e.natAbs ≤ 308 then
      let power := Number.Binary64.ofInt (Number.pow10 e.natAbs)
      if 0 ≤ e then
        let y := x * power
        if y.isInf then none else some y
      else some (x / power)
    else if x == 0.0 then some x
    else if 0 ≤ e then none
    else scaleByTen? fuel (x / 1e308) (e + 308)

/-- The float `whole.fraction · 10 ^ exponent`, where digits that do not fit 64 bits count as zeros. -/
private def float? (negative : Bool) (whole fraction : List Char) (exponent : Int) :
    Option Float := do
  let (n, dropped) := significand 0 whole
  let (n, left) := significand n fraction
  let places : Int := fraction.length - left
  let x ← scaleByTen? 8 (Number.Binary64.ofInt n) (dropped - places + exponent)
  return if negative then -x else x

/-- A number without its sign, part by part. -/
structure Numeral where
  whole : List Char
  fraction : Option (List Char)
  exponent : Option Int

/-- The exponent part, if there is one. -/
private def exponent? (s : List Char) : Option (Option Int × List Char) :=
  match s with
  | c :: rest =>
    if c = 'e' ∨ c = 'E' then
      let (negative, rest) := match rest with
        | '+' :: rest => (false, rest)
        | '-' :: rest => (true, rest)
        | _ => (false, rest)
      let (digits, rest) := Number.Binary64.spanDigits rest
      (Number.digits? digits).map fun n => (some (if negative then -(n : Int) else n), rest)
    else some (none, s)
  | [] => some (none, s)

/-- Reads the parts of a number behind its sign; each part has digits, and the whole part begins with
0 only if it is 0. -/
def numeral? (s : List Char) : Option (Numeral × List Char) := do
  let (whole, rest) := Number.Binary64.spanDigits s
  if whole.isEmpty ∨ (whole.head? = some '0' ∧ whole.length ≠ 1) then none
  else
    let (fraction, rest) := match rest with
      | '.' :: rest => let (ds, rest) := Number.Binary64.spanDigits rest; (some ds, rest)
      | _ => (none, rest)
    if fraction = some [] then none
    else
      let (exponent, rest) ← exponent? rest
      return (⟨whole, fraction, exponent⟩, rest)

def Numeral.value? (negative : Bool) (n : Numeral) : Option JsonNumber := do
  let magnitude ← Number.digits? n.whole
  if n.fraction.isNone ∧ n.exponent.isNone ∧
      (if negative then 0 < magnitude ∧ magnitude ≤ Number.pow2 63
        else magnitude < Number.pow2 64) then
    return .integer (if negative then -(magnitude : Int) else magnitude)
  else
    let x ← float? negative n.whole (n.fraction.getD []) (n.exponent.getD 0)
    return .float x

def number? (s : List Char) : Option (JsonNumber × List Char) := do
  let (negative, s) := match s with
    | '-' :: s => (true, s)
    | s => (false, s)
  let (n, rest) ← numeral? s
  return (← n.value? negative, rest)

/-! ## Documents -/

/-- The items of an array up to its closing bracket; `fuel` bounds their number. -/
private def items? (item? : List Char → Option (Json × List Char)) :
    Nat → List Char → Option (List Json × List Char)
  | 0, _ => none
  | fuel + 1, s => do
    let (j, s) ← item? s
    match skipBlanks s with
    | ',' :: s =>
      let (rest, s) ← items? item? fuel s
      return (j :: rest, s)
    | ']' :: s => return ([j], s)
    | _ => none

/-- The fields of an object up to its closing brace; `fuel` bounds their number. -/
private def fields? (item? : List Char → Option (Json × List Char)) :
    Nat → List Char → Option (List (String × Json) × List Char)
  | 0, _ => none
  | fuel + 1, s =>
    match skipBlanks s with
    | '"' :: s => do
      let (name, s) ← stringLiteral? s
      match skipBlanks s with
      | ':' :: s =>
        let (j, s) ← item? s
        match skipBlanks s with
        | ',' :: s =>
          let (rest, s) ← fields? item? fuel s
          return ((name, j) :: rest, s)
        | '\x7d' :: s => return ([(name, j)], s)
        | _ => none
      | _ => none
    | _ => none

def dropWord? (word : String) (s : List Char) : Option (List Char) :=
  let w := word.toList
  if s.take w.length = w then some (s.drop w.length) else none

/-- Reads a document that is nested less than `depth` deep off the head of the text. -/
def value? : Nat → List Char → Option (Json × List Char)
  | 0, _ => none
  | depth + 1, s =>
    match skipBlanks s with
    | 'n' :: rest => (dropWord? "ull" rest).map (.null, ·)
    | 't' :: rest => (dropWord? "rue" rest).map (.bool true, ·)
    | 'f' :: rest => (dropWord? "alse" rest).map (.bool false, ·)
    | '"' :: rest => (stringLiteral? rest).map fun (t, rest) => (.string t, rest)
    | '[' :: rest =>
      if depth = 0 then none
      else match skipBlanks rest with
        | ']' :: rest => some (.array [], rest)
        | rest => (items? (value? depth) rest.length rest).map fun (js, rest) => (.array js, rest)
    | '\x7b' :: rest =>
      if depth = 0 then none
      else match skipBlanks rest with
        | '\x7d' :: rest => some (.object [], rest)
        | rest =>
          (fields? (value? depth) rest.length rest).map fun (fs, rest) => (.object fs, rest)
    | rest => (number? rest).map fun (n, rest) => (.number n, rest)

/-- One more than the greatest depth of nesting. -/
def maxDepth : Nat := 128

/-- Reads a document; objects list their fields as the text does. -/
def read? (s : String) : Option Json :=
  match value? maxDepth s.toList with
  | some (j, rest) => if (skipBlanks rest).isEmpty then some j else none
  | none => none

def readCanonical? (s : String) : Option Json := (read? s).map canonical

end DynamicSql.Json
