import DynamicSql.Calendar.DateTime
import DynamicSql.DataType
import DynamicSql.Json.Basic
import DynamicSql.Number.Decimal.Float
import DynamicSql.Number.Decimal.Text
import DynamicSql.Uuid

/-!
# Values

A value is what an argument holds and what is written into a statement. This module has the type of
values, what kind of value one is, its readings as number or truth value, and its size.
-/

namespace DynamicSql

open Number

/-- A value. The items of a set keep the order in which they were given, the entries of a map are in
the order of their keys, and a record has one value for each field of its schema. -/
inductive Value where
  | null
  | boolean (b : Bool)
  | smallInt (n : Int16)
  | int32 (n : Int32)
  | int (n : Int64)
  | float (x : Float)
  | decimal (d : Decimal)
  | string (s : String)
  | bytes (octets : List UInt8)
  | uuid (u : Uuid)
  | date (d : Calendar.Date)
  | timestamp (t : Calendar.DateTime)
  | timestampNaive (t : Calendar.DateTime)
  | json (j : Json)
  | list (items : List Value)
  | set (items : List Value)
  | map (entries : List (String × Value))
  | record (schema : Schema) (values : List Value)

instance : Inhabited Value := ⟨.null⟩

namespace Value

def isNull : Value → Bool
  | null => true
  | _ => false

theorem eq_null_of_isNull {v : Value} (h : v.isNull = true) : v = .null := by
  cases v <;> first | rfl | cases h

def isNumeric : Value → Bool
  | smallInt _ | int32 _ | int _ | float _ | decimal _ => true
  | _ => false

/-- The type of a value. Null has no type of its own. -/
def dataType : Value → DataType
  | null => .any
  | boolean _ => .boolean
  | smallInt _ => .smallInt
  | int32 _ => .int32
  | int _ => .int
  | float _ => .float
  | decimal _ => .decimal
  | string _ => .string
  | bytes _ => .bytes
  | uuid _ => .uuid
  | date _ => .date
  | timestamp _ => .timestamp
  | timestampNaive _ => .timestampNaive
  | json _ => .json
  | list _ => .list
  | set _ => .set
  | map _ => .map
  | record schema _ => schema.type

/-- The name of the type of a value, as messages show it. -/
def typeName : Value → String
  | null => "null"
  | v => v.dataType.name

/-- The value as a whole number, for the whole number types. -/
def integer? : Value → Option Int
  | smallInt n => some n.toInt
  | int32 n => some n.toInt
  | int n => some n.toInt
  | _ => none

/-- The value as a float, for numbers. -/
def float? : Value → Option Float
  | float x => some x
  | decimal d => some d.toFloat
  | v => v.integer?.map Binary64.ofInt

/-- The exact value as a decimal number, for numbers that have one. -/
def decimal? : Value → Option Decimal
  | decimal d => some d
  | float x => Decimal.ofFloat? x
  | v => v.integer?.map Decimal.ofInt

def string? : Value → Option String
  | string s => some s
  | _ => none

/-- The truth value, also of a JSON one. -/
def bool? : Value → Option Bool
  | boolean b => some b
  | json (.bool b) => some b
  | _ => none

/-- The number of characters, octets, items or entries. -/
def size? : Value → Option Nat
  | string s => some s.length
  | bytes b => some b.length
  | list items | set items => some items.length
  | map entries => some entries.length
  | json (.array items) => some items.length
  | json (.object fields) => some fields.length
  | _ => none

/-- Whether a value counts as true: null, false and numeric zeros do not, and all else does. -/
def truth : Value → Bool
  | null => false
  | boolean b => b
  | smallInt n => n != 0
  | int32 n => n != 0
  | int n => n != 0
  | float x => x != 0.0
  | decimal d => d.unscaled != 0
  | json (.bool b) => b
  | json .null => false
  | _ => true

end Value

end DynamicSql
