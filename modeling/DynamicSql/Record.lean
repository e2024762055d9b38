import DynamicSql.Value.Basic

/-!
# Records

A record has one value for each field of its schema, in the order of the schema. Of several fields
of one name, the first is meant.
-/

namespace DynamicSql

/-- A record: a schema and a value for each of its fields. -/
structure Record where
  schema : Schema
  values : List Value

namespace Record

def empty (schema : Schema) : Record := ⟨schema, schema.fields.map fun _ => .null⟩

def toValue (r : Record) : Value := .record r.schema r.values

def get? (r : Record) (field : String) : Option Value := do r.values[← r.schema.indexOf? field]?

def noSuchField (schema : Schema) (field : String) : DataError :=
  .noSuchProperty field schema.name

def set (r : Record) (field : String) (v : Value) : Except DataError Record :=
  match r.schema.indexOf? field with
  | some i =>
    if i < r.values.length then .ok { r with values := r.values.set i v }
    else .error (noSuchField r.schema field)
  | none => .error (noSuchField r.schema field)

/-- The fields with their values, in the order of the schema. -/
def fields (r : Record) : List (String × Value) := (r.schema.fields.map Prod.fst).zip r.values

end Record

end DynamicSql
