import DynamicSql.DataError
import DynamicSql.SqlType

/-!
# Errors of parameters
-/

namespace DynamicSql

/-- The name of an SQL type in messages about missing output values. -/
def SqlType.label : SqlType → String
  | array => "Array"
  | bit => "Bit"
  | tinyInt => "TinyInt"
  | smallInt => "SmallInt"
  | integer => "Integer"
  | bigInt => "BigInt"
  | float => "Float"
  | real => "Real"
  | double => "Double"
  | numeric => "Numeric"
  | decimal => "Decimal"
  | char => "Char"
  | varChar => "VarChar"
  | longVarChar => "LongVarChar"
  | nVarChar => "NVarChar"
  | date => "Date"
  | time => "Time"
  | timestamp => "Timestamp"
  | timestampWithTimezone => "TimestampWithTimezone"
  | binary => "Binary"
  | varBinary => "VarBinary"
  | longVarBinary => "LongVarBinary"
  | blob => "Blob"
  | clob => "Clob"
  | boolean => "Boolean"
  | null => "Null"
  | other => "Other"
  | cursor => "Cursor"
  | undefined => "Undefined"
  | json => "Json"

/-- Why a placeholder cannot be resolved, or a parameter cannot be bound. -/
inductive BindError where
  | invalidParameter (expression reason : String)
  | unknownAttribute (attr expression : String)
  | unknownHandler (name : String)
  | data (e : DataError)
  | markerMismatch (markers parameters : Nat)
  | property (name : String) (cause : DataError)
  | conversion (name : String) (ordinal : Nat) (handler reason : String)
  | untypedNull (ordinal : Nat)
  | statement (ordinal : Nat) (reason : String)
  | missingOutput (ordinal : Nat) (sqlType : Option SqlType)
  deriving DecidableEq

namespace BindError

def validAttributes : String :=
  "javaType, jdbcType, mode, numericScale, resultMap, typeHandler, jdbcTypeName"

/-- A name for what is wrong, whatever it is wrong with. -/
def label : BindError → String
  | invalidParameter .. => "InvalidParameter"
  | unknownAttribute .. => "UnknownAttribute"
  | unknownHandler _ => "UnknownTypeHandler"
  | data _ => "Model"
  | markerMismatch .. => "MarkerMismatch"
  | property .. => "Property"
  | conversion .. => "Conversion"
  | untypedNull _ => "UntypedNull"
  | statement .. => "Statement"
  | missingOutput .. => "MissingOutput"

def cause? : BindError → Option DataError
  | data e | property _ e => some e
  | _ => none

def message : BindError → String
  | invalidParameter expression reason => s!"Parsing error in '{expression}': {reason}"
  | unknownAttribute attr expression =>
    s!"An invalid property '{attr}' was found in mapping #" ++ "\x7b" ++ expression ++ "\x7d" ++
      s!". Valid properties are {validAttributes}"
  | unknownHandler name => s!"Unknown type handler '{name}'"
  | data e => e.message
  | markerMismatch markers parameters =>
    s!"SQL has {markers} parameter markers but {parameters} parameters were resolved"
  | property name cause => s!"Could not read parameter '{name}': {cause.message}"
  | conversion name ordinal handler reason =>
    s!"Could not set parameter #{ordinal} ('{name}') with type handler {handler}: {reason}"
  | untypedNull ordinal => s!"A SQL type must be specified for null parameter #{ordinal}"
  | statement ordinal reason => s!"Statement rejected parameter #{ordinal}: {reason}"
  | missingOutput ordinal sqlType =>
    let type := match sqlType with
      | some t => s!"Some({t.label})"
      | none => "None"
    s!"No output value for parameter #{ordinal} of type {type}"

/-- Whether the error lies in the placeholders themselves and not in the values. -/
def isConfiguration : BindError → Bool
  | invalidParameter .. | unknownAttribute .. | unknownHandler _ | data _ => true
  | _ => false

/-- A failed conversion, told of the parameter it was for. -/
def forParameter (name : String) (ordinal : Nat) (handler : String) : BindError → BindError
  | conversion _ _ _ reason => conversion name ordinal handler reason
  | e => e

end BindError

end DynamicSql
