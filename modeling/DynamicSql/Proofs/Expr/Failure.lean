import DynamicSql.Proofs.Expr.Names
import DynamicSql.Proofs.Step
import DynamicSql.Template.Frame

/-!
# Why expressions have no value

An expression has no value where an operator or a method cannot be applied, where a part is looked up in null or
is not there, or where a name has no value. It never fails because a value cannot be gone through item by item:
just the items of a formula do, where the expression has a value (`Formula.isIteration_iff`).
-/

namespace DynamicSql

open Step

namespace ExprError

/-- Whether an operator or a method is wrong, or cannot be applied to its operands. -/
def isCalculation : ExprError → Bool
  | unknownMethod _ | invalidArguments .. | typeMismatch .. | divisionByZero | overflow _ => true
  | _ => false

/-- Errors of operators and methods. -/
abbrev OfCalculation (e : ExprError) : Prop := e.isCalculation = true

/-- Errors that are not about a value which cannot be gone through. -/
abbrev OfEvaluation (e : ExprError) : Prop := e.isIteration = false

theorem OfCalculation.ofEvaluation {e : ExprError} (h : OfCalculation e) : OfEvaluation e := by
  cases e <;> first | rfl | cases h

end ExprError

open ExprError (OfCalculation OfEvaluation)

namespace Expr

/-! ### Operators -/

theorem failsWith_wholeArithmetic (op : BinaryOp) (l r : Int) : FailsWith OfCalculation (wholeArithmetic op l r) := by
  rw [wholeArithmetic]
  split_ifs
  · exact .error rfl
  · exact .error rfl
  · split
    · exact .error rfl
    · split
      · exact .ok _
      · exact .error rfl

theorem failsWith_decimalArithmetic (op : BinaryOp) (l r : Number.Decimal) :
    FailsWith OfCalculation (decimalArithmetic op l r) := by
  rw [decimalArithmetic.eq_def]
  split_ifs
  · exact .error rfl
  · exact .ok _

theorem failsWith_arithmetic (op : BinaryOp) (left right : Value) :
    FailsWith OfCalculation (arithmetic op left right) := by
  rw [arithmetic]
  split
  · exact .error rfl
  · split
    · exact failsWith_wholeArithmetic op _ _
    · split
      · split
        · exact failsWith_decimalArithmetic op _ _
        · exact .error rfl
      · split
        · exact .ok _
        · exact .error rfl

theorem failsWith_ordering (op : BinaryOp) (left right : Value) :
    FailsWith OfCalculation (ordering op left right) := by
  rw [ordering]
  split
  · exact .ok _
  · split
    · exact .ok _
    · exact .error rfl

theorem failsWith_applyBinary (op : BinaryOp) (left right : Value) :
    FailsWith OfCalculation (applyBinary op left right) := by
  cases op with
  | equal | notEqual | and | or => exact .ok _
  | greater | less | greaterOrEqual | lessOrEqual => exact failsWith_ordering _ left right
  | subtract | multiply | divide | modulo => exact failsWith_arithmetic _ left right
  | add =>
    rw [applyBinary]
    split
    · exact .ok _
    · exact failsWith_arithmetic .add left right

theorem failsWith_negated {α : Type} (fit? : Int → Option α) (build : α → Value) (n : Int) :
    FailsWith OfCalculation (negated fit? build n) := by
  rw [negated]
  split
  · exact .ok _
  · exact .error rfl

theorem failsWith_negate (v : Value) : FailsWith OfCalculation (negate v) := by
  cases v with
  | smallInt n => exact failsWith_negated Number.int16? .smallInt n.toInt
  | int32 n => exact failsWith_negated Number.int32? .int32 n.toInt
  | int n => exact failsWith_negated Number.int64? .int n.toInt
  | float x => exact .ok _
  | decimal d => exact .ok _
  | _ => exact .error rfl

theorem failsWith_applyUnary (op : UnaryOp) (v : Value) : FailsWith OfCalculation (applyUnary op v) := by
  cases op with
  | not => exact .ok _
  | negate => exact failsWith_negate v

/-! ### Methods -/

namespace Method

theorem failsWith_expectArgs (m : Method) (args : List Value) (count : Nat) :
    FailsWith OfCalculation (expectArgs m args count) := by
  rw [expectArgs]
  split
  · exact .ok _
  · exact .error rfl

theorem failsWith_receiverText (m : Method) (receiver : Value) :
    FailsWith OfCalculation (receiverText m receiver) := by
  cases receiver with
  | string s => exact .ok s
  | _ => exact .error rfl

theorem failsWith_receiverSize (m : Method) (receiver : Value) :
    FailsWith OfCalculation (receiverSize m receiver) := by
  rw [receiverSize]
  split
  · exact .ok _
  · exact .error rfl

theorem failsWith_onlyArg (m : Method) (args : List Value) : FailsWith OfCalculation (onlyArg m args) := by
  rw [onlyArg.eq_def]
  split
  · exact .ok _
  · exact (failsWith_expectArgs m args 1).bind fun _ => .error rfl

theorem failsWith_textArg (m : Method) (args : List Value) : FailsWith OfCalculation (textArg m args) := by
  refine (failsWith_onlyArg m args).bind fun v => ?_
  cases v with
  | string s => exact .ok s
  | _ => exact .error rfl

theorem failsWith_call (m : Method) (receiver : Value) (args : List Value) :
    FailsWith OfCalculation (m.call receiver args) := by
  cases m with
  | size | isEmpty =>
    exact (failsWith_expectArgs _ args 0).bind fun _ => (failsWith_receiverSize _ receiver).bind fun _ => .ok _
  | length | trim | toUpperCase | toLowerCase =>
    exact (failsWith_expectArgs _ args 0).bind fun _ => (failsWith_receiverText _ receiver).bind fun _ => .ok _
  | startsWith | endsWith =>
    exact (failsWith_receiverText _ receiver).bind fun _ => (failsWith_textArg _ args).bind fun _ => .ok _
  | contains | containsKey =>
    refine (failsWith_onlyArg _ args).bind fun _ => ?_
    cases receiver <;> first | exact .ok _ | exact .error rfl

theorem failsWith_callByName (name : String) (receiver : Value) (args : List Value) :
    FailsWith OfCalculation (callByName name receiver args) := by
  rw [callByName]
  split
  · exact failsWith_call _ receiver args
  · exact .error rfl

end Method

/-! ### Expressions -/

section

variable {E : ExprError → Prop} {lookup : Lookup}

theorem failsWith_navigate (hnull : ∀ key, E (.nullTarget key)) (hproperty : ∀ e, E (.property e)) (v : Value)
    (key : String) : FailsWith E (navigate v key) := by
  rw [navigate.eq_def]
  split
  · exact .error (hnull key)
  · exact .ok _
  · exact .mapError hproperty _

theorem failsWith_evalArgs {args : List Expr} (h : ∀ e ∈ args, FailsWith E (e.eval lookup)) :
    FailsWith E (evalArgs lookup args) := by
  induction args with
  | nil =>
    rw [evalArgs]
    exact .ok []
  | cons e args ih =>
    obtain ⟨he, hargs⟩ := List.forall_mem_cons.1 h
    rw [evalArgs]
    exact he.bind fun _ => (ih hargs).bind fun _ => .ok _

/-- An expression fails with an error of a calculation, where a part of a value is looked up, or where a name has
no value. -/
theorem failsWith_eval (hcalculation : ∀ e, OfCalculation e → E e) (hnull : ∀ key, E (.nullTarget key))
    (hproperty : ∀ e, E (.property e)) (hlookup : ∀ n, FailsWith E (lookup n)) (e : Expr) :
    FailsWith E (e.eval lookup) := by
  induction e using induct with
  | literal v =>
    rw [eval]
    exact .ok v
  | name n =>
    rw [eval]
    exact hlookup n
  | property target n ih =>
    rw [eval]
    exact ih.bind fun v => failsWith_navigate hnull hproperty v n
  | index target key ihtarget ihkey =>
    rw [eval]
    exact ihtarget.bind fun v => ihkey.bind fun k => failsWith_navigate hnull hproperty v k.plainText
  | call target method args ihtarget ihargs =>
    rw [eval]
    refine ihtarget.bind fun receiver => ?_
    split
    · exact .error (hnull _)
    · exact (failsWith_evalArgs ihargs).bind fun vs e he =>
        hcalculation e (Method.failsWith_callByName method receiver vs e he)
  | unary op operand ih =>
    rw [eval]
    exact ih.bind fun v e he => hcalculation e (failsWith_applyUnary op v e he)
  | binary op left right ihleft ihright =>
    rw [eval]
    refine ihleft.bind fun l => ?_
    split_ifs
    · exact .ok _
    · exact .ok _
    · exact ihright.bind fun r e he => hcalculation e (failsWith_applyBinary op l r e he)

end

end Expr

/-! ### Items -/

theorem Frame.failsWith_lookup (f : Frame) (name : String) : FailsWith OfEvaluation (f.lookup name) := by
  rw [lookup]
  split
  · exact .ok _
  · split
    · exact .ok _
    · rw [argumentProperty.eq_def]
      split
      · exact .ok _
      · exact .mapError (E := OfEvaluation) (fun _ => rfl) _
      · exact .mapError (E := OfEvaluation) (fun _ => rfl) _
      · exact .ok _
      · split
        · exact .ok _
        · exact .error rfl

namespace Formula

theorem failsWith_eval (formula : Formula) (f : Frame) : FailsWith OfEvaluation (formula.eval f.lookup) :=
  Expr.failsWith_eval (fun _ => ExprError.OfCalculation.ofEvaluation) (fun _ => rfl) (fun _ => rfl)
    f.failsWith_lookup formula.expr

theorem isIteration_of_evalItems {formula : Formula} {names : Expr.Lookup} {v : Value} {cause : ExprError}
    (hv : formula.eval names = .ok v) (h : formula.evalItems names = .error cause) : cause.isIteration = true := by
  rw [evalItems, hv] at h
  cases v with
  | json j => cases j <;> cases h <;> rfl
  | _ => cases h <;> rfl

theorem isIteration_iff {formula : Formula} {f : Frame} {cause : ExprError}
    (h : formula.evalItems f.lookup = .error cause) :
    cause.isIteration = true ↔ ∃ v, formula.eval f.lookup = .ok v := by
  constructor
  · intro hiteration
    cases heval : formula.eval f.lookup with
    | ok v => exact ⟨v, rfl⟩
    | error e =>
      rw [evalItems, heval] at h
      cases h
      cases hiteration.symm.trans (formula.failsWith_eval f _ heval)
  · rintro ⟨v, hv⟩
    exact isIteration_of_evalItems hv h

end Formula

end DynamicSql
