import DynamicSql.DataError
import DynamicSql.Text.Blank
import DynamicSql.Text.Case

/-!
# Data types

The type of a value. A record type has a name and a list of named fields, each with a type of its
own.
-/

namespace DynamicSql

/-- The type of a value; `any` where nothing is known about it, and `cursor` for a result set that a
procedure hands out. -/
inductive DataType where
  | any
  | boolean
  | smallInt
  | int32
  | int
  | float
  | decimal
  | string
  | bytes
  | uuid
  | date
  | timestamp
  | timestampNaive
  | json
  | list
  | set
  | map
  | record (name : String) (fields : List (String × DataType))
  | cursor

/-- A record type. -/
structure Schema where
  name : String
  fields : List (String × DataType)

namespace DataType

mutual
def beq : DataType → DataType → Bool
  | record n fs, record m gs => n == m && beqFields fs gs
  | a, b => a.ctorIdx == b.ctorIdx

def beqFields : List (String × DataType) → List (String × DataType) → Bool
  | [], [] => true
  | (n, a) :: as, (m, b) :: bs => n == m && beq a b && beqFields as bs
  | _, _ => false
end

instance : BEq DataType := ⟨beq⟩

mutual
theorem eq_of_beq : ∀ {a b : DataType}, beq a b = true → a = b
  | record n fs, b, h => by
    cases b with
    | record m gs =>
      simp only [beq, Bool.and_eq_true, beq_iff_eq] at h
      rw [h.1, eq_of_beqFields h.2]
    | _ => simp [beq, DataType.ctorIdx] at h
  | any, b, h | boolean, b, h | smallInt, b, h | int32, b, h | int, b, h | float, b, h
  | decimal, b, h | string, b, h | bytes, b, h | uuid, b, h | date, b, h | timestamp, b, h
  | timestampNaive, b, h | json, b, h | list, b, h | set, b, h | map, b, h | cursor, b, h => by
    cases b <;> first | rfl | (simp [beq, DataType.ctorIdx] at h)

theorem eq_of_beqFields : ∀ {as bs : List (String × DataType)}, beqFields as bs = true → as = bs
  | [], [], _ => rfl
  | (n, a) :: as, (m, b) :: bs, h => by
    simp only [beqFields, Bool.and_eq_true, beq_iff_eq] at h
    rw [h.1.1, eq_of_beq h.1.2, eq_of_beqFields h.2]
  | [], _ :: _, h | _ :: _, [], h => by simp [beqFields] at h
end

mutual
theorem beq_refl : ∀ a : DataType, beq a a = true
  | record n fs => by simp [beq, beqFields_refl fs]
  | any | boolean | smallInt | int32 | int | float | decimal | string | bytes | uuid | date
  | timestamp | timestampNaive | json | list | set | map | cursor => by simp [beq]

theorem beqFields_refl : ∀ as : List (String × DataType), beqFields as as = true
  | [] => rfl
  | (n, a) :: as => by simp [beqFields, beq_refl a, beqFields_refl as]
end

instance : LawfulBEq DataType where
  eq_of_beq := eq_of_beq
  rfl {a} := beq_refl a

instance : DecidableEq DataType := fun a b => decidable_of_iff (a == b) beq_iff_eq

/-- The name of a type; a record type has its own. -/
def name : DataType → String
  | any => "any"
  | boolean => "boolean"
  | smallInt => "smallint"
  | int32 => "int"
  | int => "long"
  | float => "double"
  | decimal => "decimal"
  | string => "string"
  | bytes => "bytes"
  | uuid => "uuid"
  | date => "date"
  | timestamp => "timestamp"
  | timestampNaive => "timestamp_naive"
  | json => "json"
  | list => "list"
  | set => "set"
  | map => "map"
  | record name _ => name
  | cursor => "cursor"

/-- Types of single values. -/
def isScalar : DataType → Bool
  | any | list | set | map | record .. | cursor => false
  | _ => true

def isNumeric : DataType → Bool
  | smallInt | int32 | int | float | decimal => true
  | _ => false

/-- Types of sequences. -/
def isCollection : DataType → Bool
  | list | set => true
  | _ => false

/-- The record type, if it is one. -/
def schema? : DataType → Option Schema
  | record name fields => some ⟨name, fields⟩
  | _ => none

/-- The names by which types other than records are known, in lower case. -/
def aliases : List (String × DataType) := [
  ("any", any), ("object", any),
  ("boolean", boolean), ("bool", boolean),
  ("short", smallInt), ("smallint", smallInt), ("i16", smallInt),
  ("int", int32), ("integer", int32), ("i32", int32),
  ("long", int), ("bigint", int), ("i64", int),
  ("float", float), ("double", float), ("f64", float),
  ("decimal", decimal), ("bigdecimal", decimal),
  ("string", string), ("str", string),
  ("bytes", bytes), ("byte[]", bytes),
  ("uuid", uuid),
  ("date", date),
  ("timestamp", timestamp), ("datetime", timestamp),
  ("timestamp_naive", timestampNaive), ("localdatetime", timestampNaive),
  ("json", json),
  ("list", list), ("arraylist", list), ("collection", list),
  ("set", set), ("hashset", set),
  ("map", map), ("hashmap", map),
  ("cursor", cursor), ("resultset", cursor)]

/-- The form in which a type name is looked up: no blanks around it, in lower case. -/
def aliasKey (name : String) : String := Text.lowercase (Text.trimmed name)

/-- The type of this name, in any case and with blanks around it. -/
def ofAlias (name : String) : Except DataError DataType :=
  match aliases.lookup (aliasKey name) with
  | some t => .ok t
  | none => .error (.unknownTypeAlias name)

end DataType

namespace Schema

def type (s : Schema) : DataType := .record s.name s.fields

instance : DecidableEq Schema := fun a b =>
  decidable_of_iff (a.type = b.type) (by
    obtain ⟨n, fs⟩ := a
    obtain ⟨m, gs⟩ := b
    simp [type])

/-- The position of the first field of this name. -/
def indexOf? (s : Schema) (field : String) : Option Nat := s.fields.findIdx? (·.1 = field)

def fieldType? (s : Schema) (field : String) : Option DataType :=
  (s.fields.find? (·.1 = field)).map Prod.snd

def hasField (s : Schema) (field : String) : Bool := (s.indexOf? field).isSome

end Schema

end DynamicSql
