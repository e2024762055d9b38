import DynamicSql.Parameter.Handler
import DynamicSql.Text.Blank
import DynamicSql.Text.Case

/-!
# Parameters

A parameter of a statement: the property that its value comes from or goes to, and what is known of
its type.
-/

namespace DynamicSql

/-- Whether a parameter carries a value into the statement, out of it, or both. -/
inductive Mode where
  | input
  | output
  | both
  deriving DecidableEq

namespace Mode

/-- Whether a value is written into the statement. -/
def isInput : Mode → Bool
  | output => false
  | _ => true

/-- Whether a value is read from the statement. -/
def isOutput : Mode → Bool
  | input => false
  | _ => true

def name : Mode → String
  | input => "In"
  | output => "Out"
  | both => "InOut"

/-- The mode of this name, in any case and with blanks around it. -/
def ofName (s : String) : Except BindError Mode :=
  let key := Text.uppercase (Text.trimmed s)
  if key = "IN" then .ok input
  else if key = "OUT" then .ok output
  else if key = "INOUT" then .ok both
  else .error (.invalidParameter s s!"unknown parameter mode '{key}'")

end Mode

/-- A parameter. -/
structure Parameter where
  property : String
  type : DataType
  sqlType : Option SqlType
  sqlTypeName : Option String
  mode : Mode
  scale : Option Nat
  resultMap : Option String
  /-- The handler that was asked for; without one, a handler is chosen when a value is bound. -/
  handler : Option Handler
  deriving DecidableEq

namespace Parameter

def ofType (property : String) (type : DataType) : Parameter :=
  ⟨property, type, none, none, .input, none, none, none⟩

/-- The parameter as messages show it. -/
def text (p : Parameter) : String :=
  p.property ++ (match p.sqlType with
    | some t => ":" ++ t.name
    | none => "") ++
  (if p.mode = .input then "" else " (" ++ p.mode.name ++ ")")

end Parameter

end DynamicSql
