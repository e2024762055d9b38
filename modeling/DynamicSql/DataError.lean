import DynamicSql.Number.Integer

/-!
# Errors of values, types and paths
-/

namespace DynamicSql

/-- What can be wrong about a value, the name of a type, or a path into a value. -/
inductive DataError where
  | noSuchProperty (property typeName : String)
  | notNavigable (path segment typeName : String)
  | indexOutOfBounds (path : String) (index length : Nat)
  | invalidIndex (path index : String)
  | invalidPath (path reason : String)
  | fieldCountMismatch (typeName : String) (expected actual : Nat)
  | unknownSqlType (name : String)
  | unknownTypeAlias (name : String)
  deriving DecidableEq

/-- A name for what is wrong, whatever it is wrong with. -/
def DataError.label : DataError → String
  | noSuchProperty .. => "NoSuchProperty"
  | notNavigable .. => "NotNavigable"
  | indexOutOfBounds .. => "IndexOutOfBounds"
  | invalidIndex .. => "InvalidIndex"
  | invalidPath .. => "InvalidPath"
  | fieldCountMismatch .. => "FieldCountMismatch"
  | unknownSqlType _ => "UnknownSqlType"
  | unknownTypeAlias _ => "UnknownTypeAlias"

def DataError.message : DataError → String
  | noSuchProperty property typeName =>
    s!"There is no property named '{property}' in '{typeName}'"
  | notNavigable path segment typeName =>
    s!"Cannot navigate '{segment}' of path '{path}': value of type {typeName} has no properties"
  | indexOutOfBounds path index length =>
    s!"Index {index} out of bounds for path '{path}' (length {length})"
  | invalidIndex path index => s!"Invalid index '{index}' in path '{path}'"
  | invalidPath path reason => s!"Invalid property path '{path}': {reason}"
  | fieldCountMismatch typeName expected actual =>
    s!"Record '{typeName}' has {expected} fields but {actual} values were given"
  | unknownSqlType name => s!"Unknown SQL type: {name}"
  | unknownTypeAlias name => s!"Unknown type alias: {name}"

end DynamicSql
