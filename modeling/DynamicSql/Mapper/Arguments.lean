import DynamicSql.Value.Basic

/-!
# Arguments

A statement has one argument. The arguments of a call become one: a single one without a declared
name stays what it is, and others go into a map, each under its name and under a numbered one.
-/

namespace DynamicSql.Arguments

def nameAt (useActualNames : Bool) (index : Nat) : Option String → String
  | some name => name
  | none => if useActualNames then "arg" ++ Nat.repr index else Nat.repr index

def names (useActualNames : Bool) (declared : List (Option String)) : List String :=
  declared.mapIdx (nameAt useActualNames)

def numberedName (index : Nat) : String := "param" ++ Nat.repr (index + 1)

/-- A collection in a map, under the names by which templates know it; other values as they are. -/
def wrapCollection (v : Value) : Value :=
  match v with
  | .list _ => .map [("collection", v), ("list", v)]
  | .set _ => .map [("collection", v)]
  | v => v

/-- The entries of arguments, the first of them at an index: each has its numbered name, unless one
of the names is the same, and its name. -/
def entries (names : List String) (index : Nat) : List (String × Value) → List (String × Value)
  | [] => []
  | (name, v) :: rest =>
    let numbered := numberedName index
    (if numbered ∈ names then [] else [(numbered, v)]) ++ (name, v) :: entries names (index + 1) rest

/-- The arguments of a call as one value. -/
def combine (useActualNames : Bool) (declared : List (Option String)) (values : List Value) :
    Value :=
  match declared, values with
  | [], _ => .null
  | _, [] => .null
  | [none], v :: _ => wrapCollection v
  | _, _ =>
    let names := names useActualNames declared
    .map (Table.ofEntries (entries names 0 (names.zip values)))

end DynamicSql.Arguments
