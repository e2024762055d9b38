import DynamicSql.Json.Reader
import DynamicSql.Mapper.Error

/-!
# Settings

What holds for all mappers of a configuration.
-/

namespace DynamicSql

/-- The settings of a configuration. -/
structure Settings where
  /-- The SQL type with which a null is written of which no SQL type is known. -/
  nullType : SqlType
  /-- The database that statements are for. -/
  databaseId : Option String
  /-- The variables that are put into the texts of mappers. -/
  vars : Table String String
  /-- Whether an argument without a declared name is named `arg` and its index, and not by its index
  alone. -/
  useActualNames : Bool
  deriving DecidableEq

namespace Settings

/-- The settings of a configuration for which none are given. -/
def default : Settings where
  nullType := .other
  databaseId := none
  vars := []
  useActualNames := true

private def sqlType? (j : Json) : Option SqlType := do (SqlType.ofName (← j.string?)).toOption

private def readMember (s : Settings) (name : String) : Json.Reader Empty Settings := do
  match name with
  | "jdbcTypeForNull" => return { s with nullType := ← .readAs sqlType? }
  | "databaseId" => return { s with databaseId := ← .readAs (Json.nullable? Json.string?) }
  | "variables" => return { s with vars := ← .readAs (Json.objectOf? Json.string?) }
  | _ => return { s with useActualNames := ← .readAs Json.bool? }

/-- Reads settings; a member that is missing keeps its default. -/
def reader : Json.Reader Empty Settings :=
  .members ["jdbcTypeForNull", "databaseId", "variables", "useActualParamName"] [] default
    readMember

/-- Reads the text of settings; `source` names it in errors. -/
def parse (source text : String) : Except MapperError Settings :=
  (reader.run text).mapError fun _ => .document source .malformed

def withDatabaseId (s : Settings) (id : String) : Settings := { s with databaseId := some id }

def withVariable (s : Settings) (name value : String) : Settings :=
  { s with vars := s.vars.insert name value }

end Settings

end DynamicSql
