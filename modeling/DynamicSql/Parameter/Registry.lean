import DynamicSql.Assoc
import DynamicSql.Parameter.Handler

/-!
# Registered handlers

Handlers are registered for a value type, for all SQL types or for one of them, for an SQL type
alone, or under a name. All that a registry has to know of a handler is what it is called.
-/

namespace DynamicSql

/-- The handlers that are known. -/
structure Registry (η : Type := Handler) where
  byType : Assoc DataType (Assoc (Option SqlType) η)
  bySqlType : Assoc SqlType η
  byName : Assoc String η

namespace Registry

variable {η : Type}

/-- No handler is registered. -/
def empty : Registry η := ⟨[], [], []⟩

/-- The handler that is used where no other is known. -/
def generic : Handler := .object

/-- Registers a handler for a value type, with `none` for all SQL types. It also goes by its own
name, if nothing else does yet. -/
def register [Named η] (r : Registry η) (type : DataType) (sqlType : Option SqlType) (h : η) : Registry η where
  byType := r.byType.insert type (((r.byType.find? type).getD []).insert sqlType h)
  bySqlType := r.bySqlType
  byName := if (r.byName.find? (Named.name h)).isSome then r.byName else r.byName.insert (Named.name h) h

def registerSqlType (r : Registry η) (sqlType : SqlType) (h : η) : Registry η :=
  { r with bySqlType := r.bySqlType.insert sqlType h }

def registerNamed (r : Registry η) (name : String) (h : η) : Registry η :=
  { r with byName := r.byName.insert name h }

/-- The handler for a value type and an SQL type: the one registered for both, else the one for the
value type and all SQL types, else the only one for the value type. -/
def get? (r : Registry η) (type : DataType) (sqlType : Option SqlType) : Option η := do
  let handlers ← r.byType.find? type
  (handlers.find? sqlType).orElse fun _ => (handlers.find? none).orElse fun _ =>
    match handlers with
    | [(_, h)] => some h
    | _ => none

def forSqlType? (r : Registry η) (sqlType : SqlType) : Option η := r.bySqlType.find? sqlType

def named? (r : Registry η) (name : String) : Option η := r.byName.find? name

/-- Whether values of a type are written as a whole and have no properties to be read. -/
def isDirect (r : Registry η) (type : DataType) : Bool := (r.byType.find? type).isSome

/-- The value types that have a handler from the start. -/
def directTypes : List DataType :=
  [.boolean, .smallInt, .int32, .int, .float, .decimal, .string, .bytes, .uuid, .date, .timestamp,
    .timestampNaive]

/-- The value types that the SQL types stand for. -/
def sqlTypeTargets : List (SqlType × DataType) := [
  (.bit, .boolean), (.boolean, .boolean), (.tinyInt, .smallInt), (.smallInt, .smallInt),
  (.integer, .int32), (.bigInt, .int), (.float, .float), (.real, .float), (.double, .float),
  (.numeric, .decimal), (.decimal, .decimal), (.char, .string), (.varChar, .string),
  (.longVarChar, .string), (.nVarChar, .string), (.clob, .string), (.date, .date),
  (.timestamp, .timestampNaive), (.timestampWithTimezone, .timestamp), (.binary, .bytes),
  (.varBinary, .bytes), (.longVarBinary, .bytes), (.blob, .bytes)]

/-- The handlers that are known from the start: one for each type of single values. Documents keep
their properties, so their handler is known by SQL type and by name only. -/
def defaults : Registry :=
  let r := directTypes.foldl (fun r t => r.register t none (.coercing t)) empty
  let document := Handler.coercing .json
  let r := (r.registerNamed document.name document).registerSqlType .json document
  let r := sqlTypeTargets.foldl (fun r (s, t) => r.registerSqlType s (.coercing t)) r
  r.registerNamed generic.name generic

end Registry

end DynamicSql
