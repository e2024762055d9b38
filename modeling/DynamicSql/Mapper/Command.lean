import DynamicSql.Text.Case

/-!
# Commands

What a statement does with the data.
-/

namespace DynamicSql

/-- The kind of a statement. -/
inductive Command where
  | select
  | insert
  | update
  | delete
  deriving DecidableEq

namespace Command

def all : List Command := [select, insert, update, delete]

def name : Command → String
  | select => "SELECT"
  | insert => "INSERT"
  | update => "UPDATE"
  | delete => "DELETE"

/-- The word that stands for a command in a mapper document. -/
def word : Command → String
  | select => "select"
  | insert => "insert"
  | update => "update"
  | delete => "delete"

def ofWord? (s : String) : Option Command := all.find? fun c => c.word == s

/-- The command of a word in any case. -/
def ofName (s : String) : Except String Command :=
  let key := Text.lowercase s
  match ofWord? key with
  | some c => .ok c
  | none => .error s!"unknown statement kind '{key}'"

end Command

end DynamicSql
