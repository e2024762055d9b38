import DynamicSql.Table

/-!
# JSON documents

A JSON number is a whole number or a float, and the two are never equal. The fields of an object are
listed in the order of the text they were read from or will be written to; the canonical form of a
document lists them by name, each name once.
-/

namespace DynamicSql

/-- A JSON number. -/
inductive JsonNumber where
  | integer (n : Int)
  | float (x : Float)

/-- A JSON document. -/
inductive Json where
  | null
  | bool (b : Bool)
  | number (n : JsonNumber)
  | string (s : String)
  | array (items : List Json)
  | object (fields : List (String × Json))

instance : Inhabited Json := ⟨.null⟩

/-- Numbers are equal if they are of the same kind and have the same value. -/
def JsonNumber.beq : JsonNumber → JsonNumber → Bool
  | .integer m, .integer n => m == n
  | .float x, .float y => x == y
  | _, _ => false

instance : BEq JsonNumber := ⟨JsonNumber.beq⟩

namespace Json

def int (n : Int) : Json := .number (.integer n)

/-- A float; one that is not finite has no JSON number and becomes null. -/
def ofFloat (x : Float) : Json := if x.isFinite then .number (.float x) else .null

mutual
/-- Equality of documents, field by field and item by item. -/
def beq : Json → Json → Bool
  | null, null => true
  | bool a, bool b => a == b
  | number a, number b => a == b
  | string a, string b => a == b
  | array a, array b => beqItems a b
  | object a, object b => beqFields a b
  | _, _ => false

def beqItems : List Json → List Json → Bool
  | [], [] => true
  | a :: as, b :: bs => beq a b && beqItems as bs
  | _, _ => false

def beqFields : List (String × Json) → List (String × Json) → Bool
  | [], [] => true
  | (k, a) :: as, (l, b) :: bs => k == l && beq a b && beqFields as bs
  | _, _ => false
end

instance : BEq Json := ⟨beq⟩

mutual
/-- The document with the fields of every object in the order of their names; of several fields of
one name the last counts. -/
def canonical : Json → Json
  | array items => array (canonicalItems items)
  | object fields => object (Table.ofEntries (canonicalFields fields))
  | j => j

def canonicalItems : List Json → List Json
  | [] => []
  | j :: rest => canonical j :: canonicalItems rest

/-- Canonical fields, in the order given. -/
def canonicalFields : List (String × Json) → List (String × Json)
  | [] => []
  | (k, j) :: rest => (k, canonical j) :: canonicalFields rest
end

def field? (fields : List (String × Json)) (name : String) : Option Json := fields.lookup name

end Json

end DynamicSql
