import DynamicSql.DataError
import DynamicSql.Text.Blank
import DynamicSql.Text.Case

/-!
# SQL types

The type of a statement parameter as the database knows it.
-/

namespace DynamicSql

/-- The type of a statement parameter on the side of the database. -/
inductive SqlType where
  | array
  | bit
  | tinyInt
  | smallInt
  | integer
  | bigInt
  | float
  | real
  | double
  | numeric
  | decimal
  | char
  | varChar
  | longVarChar
  | nVarChar
  | date
  | time
  | timestamp
  | timestampWithTimezone
  | binary
  | varBinary
  | longVarBinary
  | blob
  | clob
  | boolean
  | null
  | other
  | cursor
  | undefined
  | json
  deriving DecidableEq

namespace SqlType

/-- All types. -/
def all : List SqlType := [
  array, bit, tinyInt, smallInt, integer, bigInt, float, real, double, numeric, decimal, char,
  varChar, longVarChar, nVarChar, date, time, timestamp, timestampWithTimezone, binary, varBinary,
  longVarBinary, blob, clob, boolean, null, other, cursor, undefined, json]

/-- The number that drivers use for a type. -/
def code : SqlType → Int
  | array => 2003
  | bit => -7
  | tinyInt => -6
  | smallInt => 5
  | integer => 4
  | bigInt => -5
  | float => 6
  | real => 7
  | double => 8
  | numeric => 2
  | decimal => 3
  | char => 1
  | varChar => 12
  | longVarChar => -1
  | nVarChar => -9
  | date => 91
  | time => 92
  | timestamp => 93
  | timestampWithTimezone => 2014
  | binary => -2
  | varBinary => -3
  | longVarBinary => -4
  | blob => 2004
  | clob => 2005
  | boolean => 16
  | null => 0
  | other => 1111
  | cursor => -10
  | undefined => -2147482648
  | json => 5001

def name : SqlType → String
  | array => "ARRAY"
  | bit => "BIT"
  | tinyInt => "TINYINT"
  | smallInt => "SMALLINT"
  | integer => "INTEGER"
  | bigInt => "BIGINT"
  | float => "FLOAT"
  | real => "REAL"
  | double => "DOUBLE"
  | numeric => "NUMERIC"
  | decimal => "DECIMAL"
  | char => "CHAR"
  | varChar => "VARCHAR"
  | longVarChar => "LONGVARCHAR"
  | nVarChar => "NVARCHAR"
  | date => "DATE"
  | time => "TIME"
  | timestamp => "TIMESTAMP"
  | timestampWithTimezone => "TIMESTAMP_WITH_TIMEZONE"
  | binary => "BINARY"
  | varBinary => "VARBINARY"
  | longVarBinary => "LONGVARBINARY"
  | blob => "BLOB"
  | clob => "CLOB"
  | boolean => "BOOLEAN"
  | null => "NULL"
  | other => "OTHER"
  | cursor => "CURSOR"
  | undefined => "UNDEFINED"
  | json => "JSON"

/-- The type of this name, in any case and with blanks around it; `INT` is short for `INTEGER`. -/
def ofName (s : String) : Except DataError SqlType :=
  let key := Text.uppercase (Text.trimmed s)
  match all.find? fun t => t.name == key || (t == integer && key == "INT") with
  | some t => .ok t
  | none => .error (.unknownSqlType s)

end SqlType

end DynamicSql
