/-!
# Whole numbers of limited width

Reading of decimal whole numbers, and the passage from unbounded numbers to the fixed widths.
-/

namespace DynamicSql.Number

def digitValue? (c : Char) : Option Nat :=
  if c.isDigit then some (c.toNat - '0'.toNat) else none

/-- The number that a non-empty run of ASCII digits denotes. -/
def digits? (s : List Char) : Option Nat :=
  if s.isEmpty then none
  else s.foldl (fun acc c => do return (← acc) * 10 + (← digitValue? c)) (some 0)

/-- A whole number without sign or with a plus sign. -/
def readNat? : List Char → Option Nat
  | '+' :: s => digits? s
  | s => digits? s

def readInt? : List Char → Option Int
  | '-' :: s => (digits? s).map fun n => -(n : Int)
  | s => (readNat? s).map Int.ofNat

/-- The 64-bit number of this value, if it fits. -/
def int64? (n : Int) : Option Int64 :=
  if -9223372036854775808 ≤ n ∧ n ≤ 9223372036854775807 then some (Int64.ofInt n) else none

/-- The 32-bit number of this value, if it fits. -/
def int32? (n : Int) : Option Int32 :=
  if -2147483648 ≤ n ∧ n ≤ 2147483647 then some (Int32.ofInt n) else none

/-- The 16-bit number of this value, if it fits. -/
def int16? (n : Int) : Option Int16 :=
  if -32768 ≤ n ∧ n ≤ 32767 then some (Int16.ofInt n) else none

theorem toInt_of_int64? {n : Int} {k : Int64} (h : int64? n = some k) : k.toInt = n := by
  unfold int64? at h
  split at h
  · rename_i hn
    obtain rfl := Option.some.inj h
    exact Int64.toInt_ofInt_of_le (by omega) (by omega)
  · exact absurd h nofun

theorem int64?_toInt (k : Int64) : int64? k.toInt = some k := by
  have hlo := Int64.le_toInt k
  have hhi := Int64.toInt_lt k
  rw [int64?, if_pos ⟨by omega, by omega⟩, Int64.ofInt_toInt]

theorem int32?_toInt (k : Int32) : int32? k.toInt = some k := by
  have hlo := Int32.le_toInt k
  have hhi := Int32.toInt_lt k
  rw [int32?, if_pos ⟨by omega, by omega⟩, Int32.ofInt_toInt]

theorem int16?_toInt (k : Int16) : int16? k.toInt = some k := by
  have hlo := Int16.le_toInt k
  have hhi := Int16.toInt_lt k
  rw [int16?, if_pos ⟨by omega, by omega⟩, Int16.ofInt_toInt]

/-- The decimal digits of a whole number, with a minus sign when it is negative. -/
def intText (n : Int) : String :=
  match n with
  | .ofNat n => Nat.repr n
  | .negSucc n => "-" ++ Nat.repr (n + 1)

/-- The digits of `n`, with zeros in front up to `width` characters. -/
def padded (width n : Nat) : String :=
  let digits := Nat.repr n
  String.ofList (List.replicate (width - digits.length) '0') ++ digits

end DynamicSql.Number
