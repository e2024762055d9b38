import DynamicSql.Parameter.Error

/-!
# Placeholders

The inside of a placeholder is a property, perhaps with an SQL type behind a colon, and attributes:
`property:TYPE, name=value, …`.
-/

namespace DynamicSql

/-- A property and attributes in the order in which they were written. -/
structure Placeholder where
  property : String
  attributes : List (String × String)
  deriving DecidableEq

namespace Placeholder

open Text

/-- Why the inside of a placeholder cannot be read. -/
inductive Fault where
  | expression
  | missingProperty
  | missingType
  | missingValue (attr : String)
  deriving DecidableEq

def Fault.message : Fault → String
  | expression => "expression based parameters are not supported"
  | missingProperty => "missing property name"
  | missingType => "missing SQL type after ':'"
  | missingValue attr => s!"attribute '{attr}' has no value"

def splitCommas : List Char → List (List Char)
  | [] => [[]]
  | c :: rest =>
    if c = ',' then [] :: splitCommas rest
    else match splitCommas rest with
      | part :: parts => (c :: part) :: parts
      | [] => [[c]]

/-- Reads `name=value`. -/
def readAttribute (part : List Char) : Except Fault (String × String) :=
  let name := part.takeWhile (· ≠ '=')
  match part.drop name.length with
  | _ :: value => .ok (String.ofList (trim name), String.ofList (trim value))
  | [] => .error (.missingValue (String.ofList (trim part)))

/-- The attribute that an SQL type behind a colon stands for. -/
def typeAttribute : String := "jdbcType"

/-- Reads the part before the first comma: a property, and an SQL type if there is a colon. -/
def head (part : List Char) : Except Fault (String × List (String × String)) :=
  let property := part.takeWhile (· ≠ ':')
  let name := trim property
  if name.isEmpty then .error .missingProperty
  else match part.drop property.length with
    | [] => .ok (String.ofList name, [])
    | _ :: type =>
      let type := trim type
      if type.isEmpty then .error .missingType
      else .ok (String.ofList name, [(typeAttribute, String.ofList type)])

def read (text : List Char) : Except Fault Placeholder := do
  let body := text.dropWhile fun c => c ≤ ' '
  if body.head? = some '(' then throw .expression
  else match splitCommas body with
    | [] => throw .missingProperty
    | first :: rest =>
      let (property, typed) ← head first
      let attributes ← rest.mapM readAttribute
      return ⟨property, typed ++ attributes⟩

def parse (text : String) : Except BindError Placeholder :=
  match read text.toList with
  | .ok p => .ok p
  | .error fault => .error (.invalidParameter text fault.message)

def attribute? (p : Placeholder) (name : String) : Option String := p.attributes.lookup name

end Placeholder

end DynamicSql
