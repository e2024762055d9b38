import DynamicSql.Json.Basic
import DynamicSql.Number.FloatText
import DynamicSql.Text.Utf8

/-!
# Writing JSON

The compact text has no blanks. The indented text has each item and field on a line of its own, two
blanks deeper than the bracket before it.
-/

namespace DynamicSql.Json

/-- A character inside a JSON string. -/
def escape (c : Char) : List Char :=
  match c with
  | '"' => ['\\', '"']
  | '\\' => ['\\', '\\']
  | '\n' => ['\\', 'n']
  | '\r' => ['\\', 'r']
  | '\t' => ['\\', 't']
  | '\x08' => ['\\', 'b']
  | '\x0c' => ['\\', 'f']
  | c =>
    if c.toNat < 0x20 then
      ['\\', 'u', '0', '0', Text.hexDigit (c.toNat / 16), Text.hexDigit (c.toNat % 16)]
    else [c]

/-- A string between quotation marks. -/
def quoted (s : String) : String := "\"" ++ String.ofList (s.toList.flatMap escape) ++ "\""

def numberText : JsonNumber → String
  | .integer n => Number.intText n
  | .float x => (Number.Binary64.jsonText? x).getD "null"

mutual
def text : Json → String
  | null => "null"
  | bool b => if b then "true" else "false"
  | number n => numberText n
  | string s => quoted s
  | array items => "[" ++ ",".intercalate (itemTexts items) ++ "]"
  | object fields => "\x7b" ++ ",".intercalate (fieldTexts fields) ++ "\x7d"

def itemTexts : List Json → List String
  | [] => []
  | j :: rest => text j :: itemTexts rest

def fieldTexts : List (String × Json) → List String
  | [] => []
  | (k, j) :: rest => (quoted k ++ ":" ++ text j) :: fieldTexts rest
end

/-- A line break followed by the blanks of a nesting depth. -/
private def lineBreak (depth : Nat) : String := "\n" ++ String.ofList (List.replicate (2 * depth) ' ')

/-- The parts on lines of their own between brackets, or empty brackets. -/
private def block (opening closing : String) (depth : Nat) (parts : List String) : String :=
  if parts.isEmpty then opening ++ closing
  else
    opening ++ lineBreak (depth + 1) ++ ("," ++ lineBreak (depth + 1)).intercalate parts ++
      lineBreak depth ++ closing

mutual
/-- The indented text of a document that begins at nesting depth `depth`. -/
def indentedText (depth : Nat) : Json → String
  | array items => block "[" "]" depth (indentedItems (depth + 1) items)
  | object fields => block "\x7b" "\x7d" depth (indentedFields (depth + 1) fields)
  | null => "null"
  | bool b => if b then "true" else "false"
  | number n => numberText n
  | string s => quoted s

def indentedItems (depth : Nat) : List Json → List String
  | [] => []
  | j :: rest => indentedText depth j :: indentedItems depth rest

def indentedFields (depth : Nat) : List (String × Json) → List String
  | [] => []
  | (k, j) :: rest => (quoted k ++ ": " ++ indentedText depth j) :: indentedFields depth rest
end

end DynamicSql.Json
