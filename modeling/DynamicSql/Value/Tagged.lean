import DynamicSql.Calendar.Format
import DynamicSql.Json.Printer
import DynamicSql.Json.Reader
import DynamicSql.Value.Json

/-!
# Tagged JSON form of values

The form that keeps the type of every value: an object whose only field is named for the kind of
the value, or the string `Null`. Reading a record checks that it has one value for each field.
-/

namespace DynamicSql

open Number

/-- The names of the types other than records in the tagged form. -/
def DataType.tags : List (DataType × String) := [
  (any, "Any"), (boolean, "Boolean"), (smallInt, "SmallInt"), (int32, "Int32"), (int, "Int"),
  (float, "Float"), (decimal, "Decimal"), (string, "String"), (bytes, "Bytes"), (uuid, "Uuid"),
  (date, "Date"), (timestamp, "Timestamp"), (timestampNaive, "TimestampNaive"), (json, "Json"),
  (list, "List"), (set, "Set"), (map, "Map"), (cursor, "Cursor")]

namespace Value.Tagged

/-- Reads tagged forms, which may have a fault in a record. -/
abbrev Reader := Json.Reader DataError

private def plainType? (tag : String) : Option DataType :=
  (DataType.tags.find? (·.2 = tag)).map Prod.fst

mutual
/-- Reads a type; `fuel` bounds its nesting. -/
private def typeReader : Nat → Reader DataType
  | 0 => .malformed
  | fuel + 1 => .variant (fun tag => .orMalformed (plainType? tag)) fun tag => do
    if tag = "Record" then
      let schema ← schemaReader fuel
      return .record schema.name schema.fields
    else
      let type ← .orMalformed (plainType? tag)
      .readAs fun content => if content == .null then some type else none

private def schemaReader : Nat → Reader Schema
  | 0 => .malformed
  | fuel + 1 =>
    .members ["name", "fields"] ["name", "fields"] ⟨"", []⟩ fun schema name => do
      if name = "name" then return { schema with name := ← .readAs Json.string? }
      else return { schema with fields := ← .array (fieldReader fuel) }

private def fieldReader : Nat → Reader (String × DataType)
  | 0 => .malformed
  | fuel + 1 =>
    .members ["name", "data_type"] ["name", "data_type"] ("", .any) fun field name => do
      if name = "name" then return (← .readAs Json.string?, field.2)
      else return (field.1, ← typeReader fuel)
end

private def readInt? {α : Type} (fit? : Int → Option α) : Json → Option α
  | .number (.integer n) => fit? n
  | _ => none

private def readFloat? : Json → Option Float
  | .number (.integer n) => some (Binary64.ofInt n)
  | .number (.float x) => some x
  | _ => none

private def readDecimal? : Json → Option Decimal
  | .string s => Decimal.read? s.toList
  | .number (.integer n) => some (.ofInt n)
  | .number (.float x) => Decimal.ofFloat? x
  | _ => none

private def readOctet? : Json → Option UInt8
  | .number (.integer n) => if 0 ≤ n ∧ n < 256 then some (UInt8.ofNat n.toNat) else none
  | _ => none

/-- Reads a value other than a sequence, map or record. -/
private def readPlain? (tag : String) (j : Json) : Option Value :=
  match tag with
  | "Null" => if j == .null then some .null else none
  | "Boolean" => j.bool?.map .boolean
  | "SmallInt" => (readInt? int16? j).map .smallInt
  | "Int32" => (readInt? int32? j).map .int32
  | "Int" => (readInt? int64? j).map .int
  | "Float" => (readFloat? j).map .float
  | "Decimal" => (readDecimal? j).map .decimal
  | "String" => j.string?.map .string
  | "Bytes" => (Json.arrayOf? readOctet? j).map .bytes
  | "Uuid" => do Uuid.read? (← j.string?).toList |>.map .uuid
  | "Date" => do Calendar.readLooseDate? (← j.string?).toList |>.map .date
  | "Timestamp" => do Calendar.readLooseInstant? (← j.string?).toList |>.map .timestamp
  | "TimestampNaive" => do Calendar.readLooseDateTime? (← j.string?).toList |>.map .timestampNaive
  | "Json" => some (.json j.canonical)
  | _ => none

private def checkedRecord (schema : Schema) (values : List Value) : Reader Value :=
  if values.length = schema.fields.length then return .record schema values
  else throw (.fault (.fieldCountMismatch schema.name schema.fields.length values.length))

/-- Reads a value; `fuel` bounds its nesting. -/
private def valueReader : Nat → Reader Value
  | 0 => .malformed
  | fuel + 1 => .variant (fun tag => if tag = "Null" then return .null else .malformed) fun tag => do
    match tag with
    | "List" => return .list (← .array (valueReader fuel))
    | "Set" => return .set (← .array (valueReader fuel))
    | "Map" => return .map (← .table (valueReader fuel))
    | "Record" =>
      let (schema, values) ← .members ["schema", "values"] ["schema", "values"] (⟨"", []⟩, [])
        fun (schema, values) name => do
          if name = "schema" then return (← schemaReader fuel, values)
          else return (schema, ← .array (valueReader fuel))
      checkedRecord schema values
    | tag => .readAs (readPlain? tag)

/-- Reads the text of a tagged form, in which every nested value is in brackets of its own. -/
def read (text : String) : Except (Json.Refusal DataError) Value :=
  Json.Reader.run (valueReader Json.maxDepth) text

private def tagged (tag : String) (j : Json) : Json := .object [(tag, j)]

mutual
def ofType : DataType → Json
  | .record name fields =>
    tagged "Record" (.object [("name", .string name), ("fields", .array (ofFields fields))])
  | t => .string ((DataType.tags.lookup t).getD "")

/-- The tagged forms of fields. -/
def ofFields : List (String × DataType) → List Json
  | [] => []
  | (name, type) :: rest =>
    .object [("name", .string name), ("data_type", ofType type)] :: ofFields rest
end

mutual
def write : Value → Json
  | .null => .string "Null"
  | .boolean b => tagged "Boolean" (.bool b)
  | .smallInt n => tagged "SmallInt" (.int n.toInt)
  | .int32 n => tagged "Int32" (.int n.toInt)
  | .int n => tagged "Int" (.int n.toInt)
  | .float x => tagged "Float" (.ofFloat x)
  | .decimal d => tagged "Decimal" (.string d.text)
  | .string s => tagged "String" (.string s)
  | .bytes b => tagged "Bytes" (.array (b.map fun octet => .int octet.toNat))
  | .uuid u => tagged "Uuid" (.string u.text)
  | .date d => tagged "Date" (.string d.text)
  | .timestamp t => tagged "Timestamp" (.string (t.text "T" ++ "Z"))
  | .timestampNaive t => tagged "TimestampNaive" (.string (t.text "T"))
  | .json j => tagged "Json" j
  | .list items => tagged "List" (.array (writeItems items))
  | .set items => tagged "Set" (.array (writeItems items))
  | .map entries => tagged "Map" (.object (writeEntries entries))
  | .record schema values =>
    tagged "Record" (.object [
      ("schema", .object [("name", .string schema.name),
        ("fields", .array (ofFields schema.fields))]),
      ("values", .array (writeItems values))])

/-- The tagged forms of the items. -/
def writeItems : List Value → List Json
  | [] => []
  | v :: rest => write v :: writeItems rest

/-- The tagged forms of the entries. -/
def writeEntries : List (String × Value) → List (String × Json)
  | [] => []
  | (k, v) :: rest => (k, write v) :: writeEntries rest
end

end Value.Tagged

end DynamicSql
