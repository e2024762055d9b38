import DynamicSql.Value.Basic

/-!
# Values and JSON

Objects become maps and arrays lists. In the other direction every value has a document; dates,
identifiers and decimals become strings.
-/

namespace DynamicSql.Value

open Number

mutual
/-- The value of a document. A whole number beyond 64 bits becomes a float. -/
def ofJson : Json → Value
  | .null => null
  | .bool b => boolean b
  | .number (.integer n) => match int64? n with
    | some k => int k
    | none => float (Binary64.ofInt n)
  | .number (.float x) => float x
  | .string s => string s
  | .array items => list (ofJsonItems items)
  | .object fields => map (ofJsonFields fields)

def ofJsonItems : List Json → List Value
  | [] => []
  | j :: rest => ofJson j :: ofJsonItems rest

def ofJsonFields : List (String × Json) → List (String × Value)
  | [] => []
  | (k, j) :: rest => (k, ofJson j) :: ofJsonFields rest
end

mutual
/-- The document of a value. A record lists its fields by name; of several fields of one name the
last counts. -/
def toJson : Value → Json
  | null => .null
  | boolean b => .bool b
  | smallInt n => .int n.toInt
  | int32 n => .int n.toInt
  | int n => .int n.toInt
  | float x => .ofFloat x
  | decimal d => .string d.text
  | string s => .string s
  | bytes b => .array (b.map fun octet => .int octet.toNat)
  | uuid u => .string u.text
  | date d => .string d.text
  | timestamp t => .string (t.text "T" ++ "+00:00")
  | timestampNaive t => .string (t.text " ")
  | json j => j
  | list items => .array (toJsonItems items)
  | set items => .array (toJsonItems items)
  | map entries => .object (toJsonEntries entries)
  | record schema values =>
    .object (Table.ofEntries ((schema.fields.map Prod.fst).zip (toJsonItems values)))

def toJsonItems : List Value → List Json
  | [] => []
  | v :: rest => toJson v :: toJsonItems rest

def toJsonEntries : List (String × Value) → List (String × Json)
  | [] => []
  | (k, v) :: rest => (k, toJson v) :: toJsonEntries rest
end

end DynamicSql.Value
