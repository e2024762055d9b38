import DynamicSql.Expr.Basic
import DynamicSql.Expr.Error
import DynamicSql.Value.Order
import DynamicSql.Value.Text

/-!
# Operators on values

Whole numbers of all widths are calculated with exactly, and the result must fit 64 bits. A decimal
operand makes the calculation decimal, and otherwise a float operand makes it one of floats. A sum
with a string is a text.
-/

namespace DynamicSql.Expr

open Number

/-- The error of an operator whose operands have the wrong types. -/
def mismatch (op : BinaryOp) (left right : Value) : ExprError :=
  .typeMismatch op.symbol left.typeName right.typeName

/-- The exact result of an operator on whole numbers, none for operators that are not arithmetic.
Quotients are truncated, and remainders have the sign of the dividend. -/
def exactResult? (op : BinaryOp) (l r : Int) : Option Int :=
  match op with
  | .add => some (l + r)
  | .subtract => some (l - r)
  | .multiply => some (l * r)
  | .divide => some (Int.tdiv l r)
  | .modulo => some (Int.tmod l r)
  | _ => none

def divides : BinaryOp → Bool
  | .divide | .modulo => true
  | _ => false

/-- Arithmetic on whole numbers. A remainder is refused where the quotient does not fit. -/
def wholeArithmetic (op : BinaryOp) (l r : Int) : Except ExprError Value :=
  let overflow := ExprError.overflow (intText l ++ " " ++ op.symbol ++ " " ++ intText r)
  if divides op && r == 0 then .error .divisionByZero
  else if op = .modulo ∧ (int64? (Int.tdiv l r)).isNone then .error overflow
  else match exactResult? op l r with
    | none => .error (mismatch op (.int 0) (.int 0))
    | some n => match int64? n with
      | some k => .ok (.int k)
      | none => .error overflow

def floatArithmetic (op : BinaryOp) (l r : Float) : Float :=
  match op with
  | .add => l + r
  | .subtract => l - r
  | .multiply => l * r
  | .divide => l / r
  | _ => Binary64.remainder l r

def decimalArithmetic (op : BinaryOp) (l r : Decimal) : Except ExprError Value :=
  if divides op && r.unscaled == 0 then .error .divisionByZero
  else .ok (.decimal (match op with
    | .add => l.add r
    | .subtract => l.sub r
    | .multiply => l.mul r
    | .divide => l.div r
    | _ => l.rem r))

private def isDecimal : Value → Bool
  | .decimal _ => true
  | _ => false

private def isString : Value → Bool
  | .string _ => true
  | _ => false

/-- Arithmetic on numbers; the kinds of the operands decide how. -/
def arithmetic (op : BinaryOp) (left right : Value) : Except ExprError Value :=
  if !left.isNumeric || !right.isNumeric then .error (mismatch op left right)
  else match left.integer?, right.integer? with
    | some l, some r => wholeArithmetic op l r
    | _, _ =>
      if isDecimal left || isDecimal right then
        match left.decimal?, right.decimal? with
        | some l, some r => decimalArithmetic op l r
        | _, _ => .error (mismatch op left right)
      else match left.float?, right.float? with
        | some l, some r => .ok (.float (floatArithmetic op l r))
        | _, _ => .error (mismatch op left right)

def satisfies (op : BinaryOp) (o : Ordering) : Bool :=
  match op with
  | .greater => o == .gt
  | .less => o == .lt
  | .greaterOrEqual => o != .lt
  | _ => o != .gt

/-- Compares two values; nothing is greater or less than null. -/
def ordering (op : BinaryOp) (left right : Value) : Except ExprError Value :=
  if left.isNull || right.isNull then .ok (.boolean false)
  else match left.order? right with
    | some o => .ok (.boolean (satisfies op o))
    | none => .error (mismatch op left right)

/-- The result of an operator on the values of its operands. -/
def applyBinary (op : BinaryOp) (left right : Value) : Except ExprError Value :=
  match op with
  | .equal => .ok (.boolean (left.looselyEqual right))
  | .notEqual => .ok (.boolean (!left.looselyEqual right))
  | .greater | .less | .greaterOrEqual | .lessOrEqual => ordering op left right
  | .and => .ok (.boolean (left.truth && right.truth))
  | .or => .ok (.boolean (left.truth || right.truth))
  | .add =>
    if isString left || isString right then .ok (.string (left.plainText ++ right.plainText))
    else arithmetic op left right
  | .subtract | .multiply | .divide | .modulo => arithmetic op left right

/-- A whole number with its sign changed, if that fits the width. -/
def negated {α : Type} (fit? : Int → Option α) (build : α → Value) (n : Int) :
    Except ExprError Value :=
  match fit? (-n) with
  | some k => .ok (build k)
  | none => .error (.overflow ("-" ++ intText n))

/-- A number with its sign changed. -/
def negate (v : Value) : Except ExprError Value :=
  match v with
  | .smallInt n => negated int16? .smallInt n.toInt
  | .int32 n => negated int32? .int32 n.toInt
  | .int n => negated int64? .int n.toInt
  | .float x => .ok (.float (-x))
  | .decimal d => .ok (.decimal d.neg)
  | v => .error (.typeMismatch "-" v.typeName "nothing")

/-- The result of an operator on the value of its operand. -/
def applyUnary (op : UnaryOp) (v : Value) : Except ExprError Value :=
  match op with
  | .not => .ok (.boolean (!v.truth))
  | .negate => negate v

end DynamicSql.Expr
