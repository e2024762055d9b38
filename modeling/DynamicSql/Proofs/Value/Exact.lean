import DynamicSql.Value.Basic
import Mathlib.Algebra.Order.Field.Rat
import Mathlib.Algebra.Order.Field.Power
import Mathlib.Data.Rat.Cast.Order
import Mathlib.Order.Compare
import Mathlib.Tactic.NormNum
import Mathlib.Tactic.Ring

/-!
# Exact numbers

A decimal denotes a rational number, whatever its scale. Decimals are compared by these numbers
(`Decimal.order_eq`), and one is a whole number just if its number is (`Decimal.toInt?_eq_some_iff`). So every value
that holds a whole number or a decimal has one exact number (`Value.number?`).
-/

namespace DynamicSql

namespace Number.Decimal

/-- The number that a decimal denotes. -/
def toRat (a : Decimal) : ℚ := a.unscaled / 10 ^ a.scale

theorem toRat_ofInt (n : Int) : (ofInt n).toRat = n := by
  simp [toRat, ofInt]

theorem cast_pow10 (k : Nat) : ((pow10 k : Nat) : ℚ) = 10 ^ k := by
  simp [pow10]

theorem cast_unscaledAt (a : Decimal) {s : Int} (hs : a.scale ≤ s) :
    ((a.unscaledAt s : Int) : ℚ) = a.toRat * 10 ^ s := by
  have hpower : (10 : ℚ) ^ (s - a.scale).toNat = 10 ^ s / 10 ^ a.scale := by
    rw [← zpow_natCast, Int.toNat_of_nonneg (by omega), zpow_sub₀ (by norm_num)]
  rw [unscaledAt, Int.cast_mul, Int.cast_natCast, cast_pow10, hpower, toRat]
  ring

/-- Decimals are compared by the numbers that they denote. -/
theorem order_eq (a b : Decimal) : a.order b = compare a.toRat b.toRat := by
  have hpos : (0 : ℚ) < 10 ^ max a.scale b.scale := zpow_pos (by norm_num) _
  have hmono : StrictMono fun x : ℚ => x * 10 ^ max a.scale b.scale := fun x y h => mul_lt_mul_of_pos_right h hpos
  calc a.order b = cmp (a.unscaledAt (max a.scale b.scale)) (b.unscaledAt (max a.scale b.scale)) :=
        (cmp_eq_compare _ _).symm
    _ = cmp ((a.unscaledAt (max a.scale b.scale) : Int) : ℚ) (b.unscaledAt (max a.scale b.scale) : Int) :=
        ((Int.cast_strictMono (R := ℚ)).cmp_map_eq _ _).symm
    _ = cmp (a.toRat * 10 ^ max a.scale b.scale) (b.toRat * 10 ^ max a.scale b.scale) := by
        rw [cast_unscaledAt a (le_max_left _ _), cast_unscaledAt b (le_max_right _ _)]
    _ = cmp a.toRat b.toRat := hmono.cmp_map_eq _ _
    _ = compare a.toRat b.toRat := cmp_eq_compare _ _

theorem sameNumber_iff {a b : Decimal} : a.sameNumber b = true ↔ a.toRat = b.toRat := by
  rw [sameNumber, order_eq, beq_iff_eq, compare_eq_iff_eq]

theorem toInt?_eq_some_iff {a : Decimal} {n : Int} : a.toInt? = some n ↔ a.toRat = n := by
  rw [toInt?]
  by_cases hscale : a.scale ≤ 0
  · have hcast := cast_unscaledAt a hscale
    rw [zpow_zero, mul_one] at hcast
    rw [if_pos hscale, ← hcast, Option.some_inj, Int.cast_inj]
  · obtain ⟨k, hk⟩ := Int.eq_ofNat_of_zero_le (Int.le_of_lt (not_le.1 hscale))
    have hne : (10 : ℚ) ^ k ≠ 0 := pow_ne_zero k (by norm_num)
    have hpos : (0 : Int) < pow10 k := Int.natCast_pos.2 (Nat.pow_pos (by decide))
    have hwhole : a.toRat = n ↔ a.unscaled = n * pow10 k := by
      rw [toRat, hk, zpow_natCast, div_eq_iff hne, ← cast_pow10, ← Int.cast_natCast (pow10 k),
        ← Int.cast_mul, Int.cast_inj]
    rw [if_neg hscale, hwhole, hk, Int.toNat_natCast]
    dsimp only
    split
    · next hdvd =>
      rw [Option.some_inj]
      exact Int.ediv_eq_iff_eq_mul_left hpos.ne' (Int.dvd_of_emod_eq_zero hdvd)
    · next hdvd =>
      refine iff_of_false (Option.some_ne_none _).symm fun heq => hdvd ?_
      rw [heq, Int.mul_emod_left]

end Number.Decimal

namespace Value

/-- The exact number that a value denotes: that of a whole number of any width, or of a decimal. -/
def number? : Value → Option ℚ
  | decimal d => some d.toRat
  | v => v.integer?.map fun n => (n : ℚ)

theorem number?_of_integer? {v : Value} {n : Int} (h : v.integer? = some n) : v.number? = some (n : ℚ) := by
  cases v <;> first | cases h; done | (obtain rfl := Option.some.inj h; rfl)

theorem number?_eq_some_iff {v : Value} {x : ℚ} :
    v.number? = some x ↔ (∃ n, v.integer? = some n ∧ x = n) ∨ ∃ d, v = .decimal d ∧ x = d.toRat := by
  constructor
  · intro h
    cases v with
    | decimal d => exact .inr ⟨d, rfl, (Option.some.inj h).symm⟩
    | smallInt n | int32 n | int n => exact .inl ⟨n.toInt, rfl, (Option.some.inj h).symm⟩
    | _ => cases h
  · rintro (⟨n, hn, rfl⟩ | ⟨d, rfl, rfl⟩)
    · exact number?_of_integer? hn
    · rfl

theorem decimal?_of_number? {v : Value} {x : ℚ} (h : v.number? = some x) :
    ∃ d, v.decimal? = some d ∧ d.toRat = x := by
  rcases number?_eq_some_iff.1 h with ⟨n, hn, rfl⟩ | ⟨d, rfl, rfl⟩
  · refine ⟨.ofInt n, ?_, Number.Decimal.toRat_ofInt n⟩
    cases v <;> first | cases hn; done | (obtain rfl := Option.some.inj hn; rfl)
  · exact ⟨d, rfl, rfl⟩

end Value

end DynamicSql
