import DynamicSql.DataType
import DynamicSql.Table

/-!
# Type names

Names for types, beside those that are always known. A registered name hides a known one.
-/

namespace DynamicSql

/-- Types by their names. -/
structure Aliases where
  entries : Table String DataType

namespace Aliases

/-- No names but those always known. -/
def empty : Aliases := ⟨[]⟩

def register (a : Aliases) (name : String) (type : DataType) : Aliases :=
  ⟨a.entries.insert (DataType.aliasKey name) type⟩

def registerRecord (a : Aliases) (schema : Schema) : Aliases := a.register schema.name schema.type

/-- The type of a name, in any case and with blanks around it. -/
def resolve (a : Aliases) (name : String) : Except DataError DataType :=
  match a.entries.find? (DataType.aliasKey name) with
  | some t => .ok t
  | none => DataType.ofAlias name

end Aliases

end DynamicSql
