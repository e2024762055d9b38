import DynamicSql.Json.Basic

/-!
# Reading structures from JSON documents

An object may have fields beside the members of a structure, which are ignored, but no member twice.
-/

namespace DynamicSql.Json

/-- The members of a structure that is written as an object, in the order in which the text has them,
each by its position in `names`. -/
def fieldMembers? (names : List String) (fields : List (String × Json)) :
    Option (List (Nat × Json)) :=
  let found := fields.filterMap fun (k, j) => (names.idxOf? k).map fun i => (i, j)
  if (found.map Prod.fst).Nodup then some found else none

def member? (members : List (Nat × Json)) (i : Nat) : Option Json := members.lookup i

/-- Reads an array, item by item. -/
def arrayOf? {α : Type} (item? : Json → Option α) : Json → Option (List α)
  | array items => items.mapM item?
  | _ => none

/-- Reads an object as a table, field by field; of several fields of one name the last counts. -/
def objectOf? {α : Type} (item? : Json → Option α) : Json → Option (Table String α)
  | object fields =>
    (fields.mapM fun ((k, j) : String × Json) => (item? j).map (k, ·)).map Table.ofEntries
  | _ => none

def string? : Json → Option String
  | string s => some s
  | _ => none

/-- Reads a truth value. -/
def bool? : Json → Option Bool
  | bool b => some b
  | _ => none

def memberOr {α : Type} (members : List (Nat × Json)) (i : Nat) (read? : Json → Option α)
    (default : α) : Option α :=
  match member? members i with
  | some j => read? j
  | none => some default

def nullable? {α : Type} (read? : Json → Option α) : Json → Option (Option α)
  | null => some none
  | j => (read? j).map some

end DynamicSql.Json
