import DynamicSql.Expr.Operator
import Mathlib.Algebra.Ring.Int.Defs

/-!
# Arithmetic on whole numbers

On whole numbers of any widths an operator gives the exact result, or it overflows, or it divides by zero
(`Expr.applyBinary_whole`). It overflows just where the exact result does not fit 64 bits, with one exception: the
remainder of the least number by minus one is zero, and it is refused since the quotient does not fit
(`Expr.applyBinary_least_modulo`).
-/

namespace DynamicSql

namespace Number

/-! ### Numbers of 64 bits -/

/-- The number is one of 64 bits. -/
def FitsInt64 (n : Int) : Prop := -2 ^ 63 ≤ n ∧ n < 2 ^ 63

theorem int64?_eq_some_iff {n : Int} {k : Int64} : int64? n = some k ↔ k.toInt = n := by
  constructor
  · exact toInt_of_int64?
  · rintro rfl
    exact int64?_toInt k

theorem int64?_eq_none_iff {n : Int} : int64? n = none ↔ ¬ FitsInt64 n := by
  rw [int64?, FitsInt64]
  split
  · next h => exact iff_of_false (Option.some_ne_none _) (not_not_intro ⟨by omega, by omega⟩)
  · next h => exact iff_of_true rfl (by omega)

theorem fitsInt64_toInt (k : Int64) : FitsInt64 k.toInt := ⟨Int64.le_toInt k, Int64.toInt_lt k⟩

theorem not_fitsInt64_tdiv_iff {l r : Int} (hl : FitsInt64 l) (hr : r ≠ 0) :
    ¬ FitsInt64 (l.tdiv r) ↔ l = -2 ^ 63 ∧ r = -1 := by
  unfold FitsInt64 at hl ⊢
  by_cases hneg : r = -1
  · subst hneg
    rw [Int.tdiv_neg, Int.tdiv_one]
    omega
  by_cases hone : r = 1
  · subst hone
    rw [Int.tdiv_one]
    omega
  · -- Any other divisor halves the number at least.
    have hquotient : (l.tdiv r).natAbs ≤ l.natAbs / 2 := by
      rw [Int.natAbs_tdiv]
      exact Nat.div_le_div_left (by omega) (by omega)
    omega

end Number

namespace Expr

open Number

/-! ### Exact results -/

/-- Division with a remainder that is smaller than the divisor and on the side of zero where the dividend is, so
that the quotient is the exact one without its places. -/
structure Divides (l r quotient remainder : Int) : Prop where
  eq : r * quotient + remainder = l
  small : remainder.natAbs < r.natAbs
  nonneg : 0 ≤ l → 0 ≤ remainder
  nonpos : l ≤ 0 → remainder ≤ 0

variable {op : BinaryOp} {l r n : Int}

theorem divides_iff (hr : r ≠ 0) {q m : Int} : Divides l r q m ↔ l.tdiv r = q ∧ l.tmod r = m := by
  constructor
  · intro h
    have heq := h.eq
    have hsmall := h.small
    rcases Int.le_total 0 l with hl | hl
    · exact (Int.tdiv_tmod_unique hl hr).2 ⟨by omega, h.nonneg hl, by have := h.nonneg hl; omega⟩
    · exact (Int.tdiv_tmod_unique' hl hr).2 ⟨by omega, by have := h.nonpos hl; omega, h.nonpos hl⟩
  · rintro ⟨rfl, rfl⟩
    refine ⟨Int.mul_tdiv_add_tmod l r, ?_, Int.tmod_nonneg r, fun hl => ?_⟩
    · rw [Int.natAbs_tmod]
      exact Nat.mod_lt _ (Int.natAbs_pos.2 hr)
    · have hneg := Int.tmod_nonneg r (Int.neg_nonneg_of_nonpos hl)
      rw [Int.neg_tmod] at hneg
      omega

/-- What an arithmetic operator comes to on whole numbers without bounds. -/
inductive Exact : BinaryOp → Int → Int → Int → Prop
  | sum (l r : Int) : Exact .add l r (l + r)
  | difference (l r : Int) : Exact .subtract l r (l - r)
  | product (l r : Int) : Exact .multiply l r (l * r)
  | quotient {l r q m : Int} (h : Divides l r q m) : Exact .divide l r q
  | remainder {l r q m : Int} (h : Divides l r q m) : Exact .modulo l r m

/-- The operator divides, and that by zero. -/
def DividesByZero (op : BinaryOp) (r : Int) : Prop := (op = .divide ∨ op = .modulo) ∧ r = 0

theorem dividesByZero_iff : DividesByZero op r ↔ (divides op && r == 0) = true := by
  rw [DividesByZero, Bool.and_eq_true, beq_iff_eq]
  cases op <;> simp [divides]

/-- Unless it divides by zero, an arithmetic operator has one exact result. -/
theorem exact_iff (hop : op.isArithmetic = true) (hzero : ¬ DividesByZero op r) :
    exactResult? op l r = some n ↔ Exact op l r n := by
  have hr : op = .divide ∨ op = .modulo → r ≠ 0 := fun hop hr => hzero ⟨hop, hr⟩
  constructor
  · intro h
    cases op with
    | add =>
      obtain rfl := Option.some.inj h
      exact .sum l r
    | subtract =>
      obtain rfl := Option.some.inj h
      exact .difference l r
    | multiply =>
      obtain rfl := Option.some.inj h
      exact .product l r
    | divide =>
      obtain rfl := Option.some.inj h
      exact .quotient ((divides_iff (hr (.inl rfl))).2 ⟨rfl, rfl⟩)
    | modulo =>
      obtain rfl := Option.some.inj h
      exact .remainder ((divides_iff (hr (.inr rfl))).2 ⟨rfl, rfl⟩)
    | _ => cases hop
  · intro h
    cases h with
    | sum | difference | product => rfl
    | quotient h => exact congrArg some ((divides_iff (hr (.inl rfl))).1 h).1
    | remainder h => exact congrArg some ((divides_iff (hr (.inr rfl))).1 h).2

/-! ### Results that fit -/

/-- The remainder of the least number by minus one, whose quotient does not fit. -/
def IsLeastByMinusOne (op : BinaryOp) (l r : Int) : Prop := op = .modulo ∧ l = -2 ^ 63 ∧ r = -1

/-- The error that tells of a result which does not fit. -/
def overflowOf (op : BinaryOp) (l r : Int) : ExprError :=
  .overflow (intText l ++ " " ++ op.symbol ++ " " ++ intText r)

theorem wholeArithmetic_of_dividesByZero (h : DividesByZero op r) :
    wholeArithmetic op l r = .error .divisionByZero := by
  rw [wholeArithmetic, if_pos (dividesByZero_iff.1 h)]

theorem wholeArithmetic_cases (hl : FitsInt64 l) (hzero : ¬ DividesByZero op r)
    (hn : exactResult? op l r = some n) :
    (FitsInt64 n ∧ ¬ IsLeastByMinusOne op l r ∧
      ∃ k : Int64, k.toInt = n ∧ wholeArithmetic op l r = .ok (.int k)) ∨
    ((¬ FitsInt64 n ∨ IsLeastByMinusOne op l r) ∧ wholeArithmetic op l r = .error (overflowOf op l r)) := by
  have hrefused : (op = .modulo ∧ (int64? (l.tdiv r)).isNone = true) ↔ IsLeastByMinusOne op l r := by
    refine and_congr_right fun hop => ?_
    have hr : r ≠ 0 := fun hr => hzero ⟨.inr hop, hr⟩
    rw [Option.isNone_iff_eq_none, int64?_eq_none_iff, not_fitsInt64_tdiv_iff hl hr]
  rw [wholeArithmetic, if_neg (fun h => hzero (dividesByZero_iff.2 h)), hn]
  by_cases hleast : IsLeastByMinusOne op l r
  · rw [if_pos (hrefused.2 hleast)]
    exact .inr ⟨.inr hleast, rfl⟩
  · rw [if_neg (fun h => hleast (hrefused.1 h))]
    dsimp only
    cases hk : int64? n with
    | none => exact .inr ⟨.inl (int64?_eq_none_iff.1 hk), rfl⟩
    | some k =>
      obtain rfl := int64?_eq_some_iff.1 hk
      exact .inl ⟨fitsInt64_toInt k, hleast, k, rfl, rfl⟩

theorem wholeArithmetic_eq_ok_iff (hl : FitsInt64 l) (hzero : ¬ DividesByZero op r)
    (hn : exactResult? op l r = some n) {v : Value} :
    wholeArithmetic op l r = .ok v ↔
      FitsInt64 n ∧ ¬ IsLeastByMinusOne op l r ∧ ∃ k : Int64, k.toInt = n ∧ v = .int k := by
  rcases wholeArithmetic_cases hl hzero hn with ⟨hfit, hleast, k, rfl, heq⟩ | ⟨hrefused, heq⟩
  · rw [heq]
    constructor
    · intro h
      exact ⟨hfit, hleast, k, rfl, (Except.ok.inj h).symm⟩
    · rintro ⟨-, -, k', hk', rfl⟩
      rw [Int64.toInt_inj.1 hk']
  · rw [heq]
    refine iff_of_false (fun h => by cases h) ?_
    rintro ⟨hfit, hleast, -⟩
    exact hrefused.elim (fun h => h hfit) hleast

theorem wholeArithmetic_eq_error_iff (hl : FitsInt64 l) (hzero : ¬ DividesByZero op r)
    (hn : exactResult? op l r = some n) {e : ExprError} :
    wholeArithmetic op l r = .error e ↔ (¬ FitsInt64 n ∨ IsLeastByMinusOne op l r) ∧ e = overflowOf op l r := by
  rcases wholeArithmetic_cases hl hzero hn with ⟨hfit, hleast, k, -, heq⟩ | ⟨hrefused, heq⟩
  · rw [heq]
    refine iff_of_false (fun h => by cases h) ?_
    rintro ⟨h | h, -⟩
    · exact h hfit
    · exact hleast h
  · rw [heq]
    constructor
    · intro h
      exact ⟨hrefused, (Except.error.inj h).symm⟩
    · rintro ⟨-, rfl⟩
      rfl

/-! ### Values -/

variable {left right : Value}

theorem fitsInt64_of_integer? (h : left.integer? = some l) : FitsInt64 l := by
  cases left with
  | smallInt n =>
    obtain rfl := Option.some.inj h
    have hlow := Int16.le_toInt n
    have hhigh := Int16.toInt_lt n
    exact ⟨by omega, by omega⟩
  | int32 n =>
    obtain rfl := Option.some.inj h
    have hlow := Int32.le_toInt n
    have hhigh := Int32.toInt_lt n
    exact ⟨by omega, by omega⟩
  | int n =>
    obtain rfl := Option.some.inj h
    exact fitsInt64_toInt n
  | _ => cases h

theorem isNumeric_of_integer? (h : left.integer? = some l) : left.isNumeric = true := by
  cases left <;> first | rfl | cases h

theorem applyBinary_eq_arithmetic (hop : op.isArithmetic = true) (hl : left.isNumeric = true)
    (hr : right.isNumeric = true) : applyBinary op left right = arithmetic op left right := by
  cases op with
  | add => cases left <;> cases hl <;> cases right <;> cases hr <;> rfl
  | subtract | multiply | divide | modulo => rfl
  | _ => cases hop

theorem applyBinary_eq_wholeArithmetic (hop : op.isArithmetic = true) (hl : left.integer? = some l)
    (hr : right.integer? = some r) : applyBinary op left right = wholeArithmetic op l r := by
  have hleft := isNumeric_of_integer? hl
  have hright := isNumeric_of_integer? hr
  rw [applyBinary_eq_arithmetic hop hleft hright, arithmetic, hleft, hright, hl, hr]
  rfl

/-- Arithmetic on whole numbers is exact or fails for a reason, whatever the widths of the operands. It divides by
zero just if the operator divides and the right operand is zero. Otherwise there is one exact result. This is what
comes out if it fits 64 bits, and if not, the operation overflows; and the remainder of the least number by minus
one counts as one that does not fit. -/
theorem applyBinary_whole (hop : op.isArithmetic = true) (hl : left.integer? = some l)
    (hr : right.integer? = some r) :
    (applyBinary op left right = .error .divisionByZero ↔ DividesByZero op r) ∧
    (¬ DividesByZero op r → ∃ n, (∀ m, Exact op l r m ↔ m = n) ∧
      (∀ v, applyBinary op left right = .ok v ↔
        FitsInt64 n ∧ ¬ IsLeastByMinusOne op l r ∧ ∃ k : Int64, k.toInt = n ∧ v = .int k) ∧
      (∀ e, applyBinary op left right = .error e ↔
        (¬ FitsInt64 n ∨ IsLeastByMinusOne op l r) ∧ e = overflowOf op l r)) ∧
    (∀ left' right' : Value, left'.integer? = some l → right'.integer? = some r →
      applyBinary op left' right' = applyBinary op left right) := by
  rw [applyBinary_eq_wholeArithmetic hop hl hr]
  have hfits := fitsInt64_of_integer? hl
  obtain ⟨n, hn⟩ : ∃ n, exactResult? op l r = some n := by
    cases op <;> first | exact ⟨_, rfl⟩ | cases hop
  refine ⟨⟨fun h => ?_, wholeArithmetic_of_dividesByZero⟩, fun hzero => ?_, fun left' right' hl' hr' => ?_⟩
  · refine Classical.byContradiction fun hzero => ?_
    obtain ⟨-, he⟩ := (wholeArithmetic_eq_error_iff hfits hzero hn).1 h
    cases he
  · refine ⟨n, fun m => ?_, fun v => wholeArithmetic_eq_ok_iff hfits hzero hn,
      fun e => wholeArithmetic_eq_error_iff hfits hzero hn⟩
    rw [← exact_iff hop hzero, hn, Option.some_inj, eq_comm]
  · exact applyBinary_eq_wholeArithmetic hop hl' hr'

theorem applyBinary_whole_quotient :
    (Value.smallInt (-7)).integer? = some (-7) ∧ (Value.int32 2).integer? = some 2 ∧ ¬ DividesByZero .divide 2 ∧
      Exact .divide (-7) 2 (-3) ∧ applyBinary .divide (.smallInt (-7)) (.int32 2) = .ok (.int (-3)) := by
  have hzero : ¬ DividesByZero .divide 2 := fun h => absurd h.2 (by decide)
  have hquotient : Exact .divide (-7) 2 (-3) := .quotient (m := -1) ⟨rfl, by decide, by decide, by decide⟩
  have hop : BinaryOp.divide.isArithmetic = true := rfl
  have hl : (Value.smallInt (-7)).integer? = some (-7) := rfl
  have hr : (Value.int32 2).integer? = some 2 := rfl
  obtain ⟨-, hwhole, -⟩ := applyBinary_whole hop hl hr
  obtain ⟨n, hexact, hok, -⟩ := hwhole hzero
  obtain rfl := (hexact _).1 hquotient
  refine ⟨hl, hr, hzero, hquotient, (hok _).2 ⟨⟨by decide, by decide⟩, fun h => ?_, -3, rfl, rfl⟩⟩
  cases h.1

/-- The least number of 64 bits has no remainder by minus one, as a whole number; as a decimal it has. -/
theorem applyBinary_least_modulo :
    Exact .modulo (-2 ^ 63) (-1) 0 ∧ FitsInt64 0 ∧
      applyBinary .modulo (.int Int64.minValue) (.int (-1)) = .error (overflowOf .modulo (-2 ^ 63) (-1)) ∧
      applyBinary .modulo (.decimal (.ofInt (-2 ^ 63))) (.int (-1)) = .ok (.decimal (.ofInt 0)) := by
  refine ⟨.remainder (q := 2 ^ 63) ⟨rfl, by decide, by decide, by decide⟩, ⟨by decide, by decide⟩, rfl, rfl⟩

end Expr

end DynamicSql
