import DynamicSql.Value.Basic

/-!
# Comparing values

Numbers of all kinds are compared by their value: whole numbers and decimals exactly, and a float
with a whole number as floats. Other values compare only with values of their own kind.
-/

namespace DynamicSql

open Number

/-- The order of two floats, if neither is NaN. -/
def Number.Binary64.order? (x y : Float) : Option Ordering :=
  if x < y then some .lt else if x == y then some .eq else if x > y then some .gt else none

/-- The lexicographic order of octets; a shorter sequence comes before its extensions. -/
def Text.orderBytes : List UInt8 → List UInt8 → Ordering
  | [], [] => .eq
  | [], _ :: _ => .lt
  | _ :: _, [] => .gt
  | a :: as, b :: bs => (compare a.toNat b.toNat).then (orderBytes as bs)

namespace Value

mutual
/-- Equality of values of one kind. Decimals of different scales can be equal, and a float that is
NaN equals nothing. -/
def beq : Value → Value → Bool
  | null, null => true
  | boolean a, boolean b => a == b
  | smallInt a, smallInt b => a == b
  | int32 a, int32 b => a == b
  | int a, int b => a == b
  | float a, float b => a == b
  | decimal a, decimal b => a.sameNumber b
  | string a, string b => a == b
  | bytes a, bytes b => a == b
  | uuid a, uuid b => a == b
  | date a, date b => a == b
  | timestamp a, timestamp b => a == b
  | timestampNaive a, timestampNaive b => a == b
  | json a, json b => a == b
  | list a, list b => beqItems a b
  | set a, set b => beqItems a b
  | map a, map b => beqEntries a b
  | record s a, record t b => s == t && beqItems a b
  | _, _ => false

def beqItems : List Value → List Value → Bool
  | [], [] => true
  | a :: as, b :: bs => beq a b && beqItems as bs
  | _, _ => false

def beqEntries : List (String × Value) → List (String × Value) → Bool
  | [], [] => true
  | (k, a) :: as, (l, b) :: bs => k == l && beq a b && beqEntries as bs
  | _, _ => false
end

instance : BEq Value := ⟨beq⟩

/-- The order of two values that are not both whole numbers. -/
private def orderOther? (a b : Value) : Option Ordering :=
  match a, b with
  | string a, string b => some (compare a b)
  | boolean a, boolean b => some (compare a b)
  | uuid a, uuid b => some (a.order b)
  | date a, date b => some (a.order b)
  | timestamp a, timestamp b => some (a.order b)
  | timestampNaive a, timestampNaive b => some (a.order b)
  | bytes a, bytes b => some (Text.orderBytes a b)
  | decimal _, _ | _, decimal _ => do return (← a.decimal?).order (← b.decimal?)
  | _, _ => do Binary64.order? (← a.float?) (← b.float?)

/-- The order of two values, none if they are not comparable. -/
def order? (a b : Value) : Option Ordering :=
  match a.integer?, b.integer? with
  | some m, some n => some (compare m n)
  | _, _ => orderOther? a b

/-- Equality of comparable values by their order, of others by kind and content: the number one is
the same in every numeric type. -/
def looselyEqual (a b : Value) : Bool :=
  match a.order? b with
  | some o => o == .eq
  | none => a == b

end Value

end DynamicSql
