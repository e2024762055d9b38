import DynamicSql.Value.Basic

/-!
# Expressions

The tests of conditional elements, the values of variables and the collections of loops are
expressions over named values: literals, names, properties, indexes, method calls and operators.
-/

namespace DynamicSql

/-- An operator before its operand. -/
inductive UnaryOp where
  | not
  | negate
  deriving DecidableEq

/-- An operator between two operands. -/
inductive BinaryOp where
  | add
  | subtract
  | multiply
  | divide
  | modulo
  | equal
  | notEqual
  | greater
  | less
  | greaterOrEqual
  | lessOrEqual
  | and
  | or
  deriving DecidableEq

def UnaryOp.symbol : UnaryOp → String
  | not => "!"
  | negate => "-"

namespace BinaryOp

def symbol : BinaryOp → String
  | add => "+"
  | subtract => "-"
  | multiply => "*"
  | divide => "/"
  | modulo => "%"
  | equal => "=="
  | notEqual => "!="
  | greater => ">"
  | less => "<"
  | greaterOrEqual => ">="
  | lessOrEqual => "<="
  | and => "&&"
  | or => "||"

/-- The word an operator may be written as, where there is one. -/
def word? : BinaryOp → Option String
  | equal => some "eq"
  | notEqual => some "neq"
  | greater => some "gt"
  | less => some "lt"
  | greaterOrEqual => some "gte"
  | lessOrEqual => some "lte"
  | and => some "and"
  | or => some "or"
  | _ => none

/-- All operators between two operands. -/
def all : List BinaryOp :=
  [add, subtract, multiply, divide, modulo, equal, notEqual, greater, less, greaterOrEqual,
    lessOrEqual, and, or]

/-- How tightly an operator binds; all of one level are applied from left to right. -/
def level : BinaryOp → Nat
  | multiply | divide | modulo => 0
  | add | subtract => 1
  | greater | less | greaterOrEqual | lessOrEqual => 2
  | equal | notEqual => 3
  | and => 4
  | or => 5

/-- Whether the operator computes a number. -/
def isArithmetic : BinaryOp → Bool
  | add | subtract | multiply | divide | modulo => true
  | _ => false

def ofSymbol? (s : String) : Option BinaryOp := all.find? fun op => op.symbol == s || op.word? == some s

end BinaryOp

/-- The operator of this symbol or word. -/
def UnaryOp.ofSymbol? : String → Option UnaryOp
  | "!" | "not" => some .not
  | "-" => some .negate
  | _ => none

/-- An expression. -/
inductive Expr where
  | literal (v : Value)
  | name (n : String)
  | property (target : Expr) (name : String)
  | index (target key : Expr)
  | call (target : Expr) (method : String) (args : List Expr)
  | unary (op : UnaryOp) (operand : Expr)
  | binary (op : BinaryOp) (left right : Expr)

namespace Expr

mutual
/-- The names an expression looks up, each once, behind those in `found`. -/
def addNames (found : List String) : Expr → List String
  | literal _ => found
  | name n => if n ∈ found then found else found ++ [n]
  | property target _ => addNames found target
  | index target key => addNames (addNames found target) key
  | call target _ args => addAllNames (addNames found target) args
  | unary _ operand => addNames found operand
  | binary _ left right => addNames (addNames found left) right

/-- The names that some expressions look up, behind those in `found`. -/
def addAllNames (found : List String) : List Expr → List String
  | [] => found
  | e :: rest => addAllNames (addNames found e) rest
end

/-- The names an expression looks up, each once, in the order of their first use. -/
def names (e : Expr) : List String := addNames [] e

end Expr

end DynamicSql
