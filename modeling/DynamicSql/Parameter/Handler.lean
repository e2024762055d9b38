import DynamicSql.Parameter.Coercion
import DynamicSql.Parameter.Store

/-!
# Type handlers

A handler brings values into the form in which they are written into a statement, and values read
from a statement into the form of the argument.
-/

namespace DynamicSql

/-- Things that go by a name. -/
class Named (η : Type) where
  name : η → String

/-- A handler: one that passes values on as they are, or one that coerces them to a type. -/
inductive Handler where
  | object
  | coercing (target : DataType)
  deriving DecidableEq

namespace Handler

def name : Handler → String
  | object => "ObjectHandler"
  | coercing target => target.name ++ "Handler"

instance : Named Handler := ⟨name⟩

/-- Whether a handler takes every value as it is. -/
def isGeneric : Handler → Bool
  | object => true
  | coercing _ => false

/-- The form in which a handler writes a value that is not null. -/
def convert (h : Handler) (ordinal : Nat) (v : Value) : Except BindError Value :=
  match h with
  | object => .ok v
  | coercing target =>
    (v.coerce target).mapError fun unfit => .conversion "" ordinal h.name unfit.message

/-- Writes a value; null needs an SQL type. -/
def setParameter (h : Handler) (store : Store) (ordinal : Nat) (v : Value)
    (sqlType : Option SqlType) : Except BindError Store :=
  if v.isNull then
    match sqlType with
    | some t => store.setNull ordinal t
    | none => .error (.untypedNull ordinal)
  else do
    let w ← h.convert ordinal v
    store.setValue ordinal w sqlType

/-- The value for the argument of a value read from a statement. -/
def result (h : Handler) (v : Value) : Except BindError Value :=
  if v.isNull then .ok v else h.convert 0 v

end Handler

end DynamicSql
