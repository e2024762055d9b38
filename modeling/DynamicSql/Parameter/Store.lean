import DynamicSql.Parameter.Error
import DynamicSql.Table
import DynamicSql.Value.Basic

/-!
# Statement parameters

What is written into a statement before it is run, by ordinals that begin at 1, and what its output
parameters hold afterwards.
-/

namespace DynamicSql

/-- A value written into a statement. -/
structure Input where
  value : Value
  sqlType : Option SqlType

/-- An output parameter made known to a statement. -/
structure Output where
  sqlType : SqlType
  scale : Option Nat
  typeName : Option String
  deriving DecidableEq

/-- The parameters of a statement. -/
structure Store where
  inputs : Table Nat Input
  outputs : Table Nat Output
  results : Table Nat Value

namespace Store

/-- A statement without parameters. -/
def empty : Store := ⟨[], [], []⟩

/-- Refuses the ordinal 0. -/
def checkOrdinal (ordinal : Nat) : Except BindError Unit :=
  if ordinal = 0 then .error (.statement ordinal "parameter ordinals start at 1") else .ok ()

def setValue (s : Store) (ordinal : Nat) (v : Value) (sqlType : Option SqlType) :
    Except BindError Store := do
  checkOrdinal ordinal
  return { s with inputs := s.inputs.insert ordinal ⟨v, sqlType⟩ }

def setNull (s : Store) (ordinal : Nat) (sqlType : SqlType) : Except BindError Store :=
  s.setValue ordinal .null (some sqlType)

/-- Makes an output parameter known. -/
def registerOutput (s : Store) (ordinal : Nat) (output : Output) : Except BindError Store := do
  checkOrdinal ordinal
  return { s with outputs := s.outputs.insert ordinal output }

/-- Gives an output parameter its value. -/
def setResult (s : Store) (ordinal : Nat) (v : Value) : Store :=
  { s with results := s.results.insert ordinal v }

def output? (s : Store) (ordinal : Nat) : Option Value := s.results.find? ordinal

/-- The values written, in the order of their ordinals. -/
def values (s : Store) : List Value := s.inputs.map fun (_, i) => i.value

end Store

end DynamicSql
