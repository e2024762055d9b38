import DynamicSql.Text.Blank
import DynamicSql.Text.Case

/-!
# Dialects

How a database quotes identifiers and writes the places of parameters.
-/

namespace DynamicSql

/-- A dialect of SQL. -/
inductive Dialect where
  | mySql
  | postgres
  deriving DecidableEq

namespace Dialect

def name : Dialect → String
  | mySql => "MySQL"
  | postgres => "PostgreSQL"

/-- The dialect that a name refers to, in any case and with blanks around it. -/
def ofName (s : String) : Except String Dialect :=
  let key := Text.lowercase (Text.trimmed s)
  if key = "mysql" ∨ key = "mariadb" then .ok mySql
  else if key = "postgres" ∨ key = "postgresql" ∨ key = "pg" then .ok postgres
  else .error s!"unsupported dialect '{key}'"

/-- The mark around identifiers. -/
def quoteMark : Dialect → Char
  | mySql => '\x60'
  | postgres => '"'

/-- The characters of an identifier, each mark written twice. -/
def doubleMarks (mark : Char) (s : List Char) : List Char :=
  s.flatMap fun c => if c = mark then [c, c] else [c]

/-- An identifier between marks. -/
def quoteIdentifier (d : Dialect) (ident : String) : String :=
  String.ofList (d.quoteMark :: doubleMarks d.quoteMark ident.toList ++ [d.quoteMark])

/-- The place of the parameter at an index, counted from 0. -/
def placeholder (d : Dialect) (index : Nat) : String :=
  match d with
  | mySql => "?"
  | postgres => "$" ++ Nat.repr (index + 1)

end Dialect

end DynamicSql
