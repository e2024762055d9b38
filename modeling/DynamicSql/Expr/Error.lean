import DynamicSql.DataError

/-!
# Errors of expressions
-/

namespace DynamicSql

/-- Why a text is no expression, or an expression has no value. -/
inductive ExprError where
  | syntaxError (expression detail : String)
  | unresolvedName (name : String)
  | nullTarget (property : String)
  | property (e : DataError)
  | unknownMethod (name : String)
  | invalidArguments (method reason : String)
  | typeMismatch (op left right : String)
  | divisionByZero
  | overflow (operation : String)
  | nullCollection (expression : String)
  | notIterable (expression typeName : String)
  deriving DecidableEq

namespace ExprError

/-- A name for what is wrong, whatever it is wrong with. -/
def label : ExprError → String
  | syntaxError .. => "Syntax"
  | unresolvedName _ => "UnresolvedName"
  | nullTarget _ => "NullTarget"
  | property _ => "Property"
  | unknownMethod _ => "UnknownMethod"
  | invalidArguments .. => "InvalidMethodArgs"
  | typeMismatch .. => "TypeMismatch"
  | divisionByZero => "DivisionByZero"
  | overflow _ => "Overflow"
  | nullCollection _ => "NullCollection"
  | notIterable .. => "NotIterable"

def cause? : ExprError → Option DataError
  | property e => some e
  | _ => none

def message : ExprError → String
  | syntaxError expression detail => s!"Syntax error in expression '{expression}': {detail}"
  | unresolvedName name => s!"Unresolved name '{name}'"
  | nullTarget name => s!"Cannot read '{name}' from a null value"
  | property e => e.message
  | unknownMethod name => s!"Unknown method: {name}"
  | invalidArguments method reason => s!"Invalid arguments for {method}: {reason}"
  | typeMismatch op left right => s!"Operator '{op}' cannot be applied to {left} and {right}"
  | divisionByZero => "Division by zero"
  | overflow operation => s!"Arithmetic overflow in '{operation}'"
  | nullCollection expression => s!"The expression '{expression}' evaluated to a null value"
  | notIterable expression typeName =>
    s!"The expression '{expression}' evaluated to {typeName}, which is not iterable"

/-- Whether the text is no expression at all. -/
def isSyntax : ExprError → Bool
  | syntaxError .. => true
  | _ => false

/-- Whether a value was found but cannot be gone through item by item. -/
def isIteration : ExprError → Bool
  | nullCollection _ | notIterable .. => true
  | _ => false

end ExprError

end DynamicSql
