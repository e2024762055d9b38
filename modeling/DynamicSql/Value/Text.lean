import DynamicSql.Json.Printer
import DynamicSql.Value.Json

/-!
# Texts of values

A value has a text as a literal in a statement, where strings are quoted, and a plain text, where
they are not.
-/

namespace DynamicSql.Value

open Number

/-- The characters between quotation marks, each mark inside written twice. -/
def quote (s : String) : String :=
  "'" ++ String.ofList (s.toList.flatMap fun c => if c = '\'' then ['\'', '\''] else [c]) ++ "'"

/-- The literal of a value; sequences, maps and records have the text of their document. -/
def literal (v : Value) : String :=
  match v with
  | null => "NULL"
  | boolean b => if b then "true" else "false"
  | smallInt n => intText n.toInt
  | int32 n => intText n.toInt
  | int n => intText n.toInt
  | float x => Binary64.plainText x
  | decimal d => d.text
  | string s => quote s
  | bytes b => "x'" ++ String.ofList (Text.hexOfBytes b) ++ "'"
  | uuid u => "'" ++ u.text ++ "'"
  | date d => "'" ++ d.text ++ "'"
  | timestamp t => "'" ++ t.text "T" ++ "+00:00'"
  | timestampNaive t => "'" ++ t.text " " ++ "'"
  | json j => quote j.text
  | list _ | set _ | map _ | record .. => v.toJson.text

/-- The text of a value without quotation marks; octets are read as UTF-8. -/
def plainText (v : Value) : String :=
  match v with
  | null => "null"
  | string s => s
  | bytes b => String.ofList (Text.ofUtf8Lossy b)
  | uuid u => u.text
  | date d => d.text
  | timestamp t => t.text "T" ++ "+00:00"
  | timestampNaive t => t.text " "
  | json j => j.text
  | _ => v.literal

end DynamicSql.Value
