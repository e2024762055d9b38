/-!
# Powers

Powers of two and ten, as numbers from 0.
-/

namespace DynamicSql.Number

/-- The `k`-th power of two. -/
def pow2 (k : Nat) : Nat := Nat.pow 2 k

/-- The `k`-th power of ten. -/
def pow10 (k : Nat) : Nat := Nat.pow 10 k

end DynamicSql.Number
