import DynamicSql.Number.Power
import DynamicSql.Text.Utf8

/-!
# Universally unique identifiers

Sixteen octets, read in any of their usual written forms and written as lower case hexadecimal
digits in groups of 8, 4, 4, 4 and 12.
-/

namespace DynamicSql

/-- An identifier of 128 bits. -/
structure Uuid where
  bits : BitVec 128
  deriving DecidableEq

namespace Uuid

open Text

private def ofDigits? (digits : List Char) : Option Uuid :=
  if digits.length = 32 then (hexNumber? digits).map fun n => ⟨BitVec.ofNat 128 n⟩ else none

/-- Reads five groups of digits joined by strokes. -/
private def ofGroups? (s : List Char) : Option Uuid :=
  let strokes := [8, 13, 18, 23]
  if s.length = 36 ∧ strokes.all fun i => s[i]? = some '-' then
    ofDigits? (s.take 8 ++ (s.drop 9).take 4 ++ (s.drop 14).take 4 ++ (s.drop 19).take 4 ++
      s.drop 24)
  else none

/-- The first part of the long written form, which may be written in any case. -/
private def urn : List Char := "urn:uuid:".toList

/-- Reads 32 digits, or five groups, which may stand in braces or behind `urn:uuid:`. Letters count
in either case. -/
def read? (s : List Char) : Option Uuid :=
  match s.length, s with
  | 32, _ => ofDigits? s
  | 38, '\x7b' :: rest => if rest.getLast? = some '\x7d' then ofGroups? (rest.take 36) else none
  | 45, _ => if (s.take 9).map Char.toLower = urn then ofGroups? (s.drop 9) else none
  | _, _ => ofGroups? s

/-- The text in five groups. -/
def text (u : Uuid) : String :=
  let all := (List.range 32).map fun i => hexDigit (u.bits.toNat / Number.pow2 (4 * (31 - i)) % 16)
  let group (start count : Nat) := (all.drop start).take count
  String.ofList (List.intercalate ['-']
    [group 0 8, group 8 4, group 12 4, group 16 4, group 20 12])

/-- Identifiers in the order of their octets. -/
def order (a b : Uuid) : Ordering := compare a.bits.toNat b.bits.toNat

end Uuid

end DynamicSql
