import DynamicSql.Parameter.Alias
import DynamicSql.Parameter.Bound
import DynamicSql.Parameter.Placeholder
import DynamicSql.Parameter.Registry
import DynamicSql.Path.Navigate
import DynamicSql.Template.Delimited

/-!
# Resolving placeholders

Each placeholder of a rendered text becomes a parameter. The type of a parameter is what its
attributes say, and otherwise what can be told from the variables and from the type of the argument.
-/

namespace DynamicSql

/-- What placeholders are resolved with: the handlers and type names, the type of the argument, and
the variables. -/
structure Resolver where
  registry : Registry
  aliases : Aliases
  argumentType : DataType
  bindings : Table String Value

namespace Resolver

/-- The type of a property as far as it can be told before a value is there, and otherwise any. -/
def inferType (r : Resolver) (property : String) (sqlType : Option SqlType) : DataType :=
  match Path.parse property with
  | .error _ => .any
  | .ok path =>
    match (Value.map r.bindings).typeAt? path with
    | some t => t
    | none =>
      if r.registry.isDirect r.argumentType then r.argumentType
      else if sqlType = some .cursor then .cursor
      else match r.argumentType with
        | .map | .any => .any
        | t => (t.property? path).getD .any

def applyAttribute (r : Resolver) (body : String) (sqlType : Option SqlType) (p : Parameter)
    (name value : String) : Except BindError Parameter :=
  match name with
  | "javaType" => do
    let type ← (r.aliases.resolve value).mapError .data
    return { p with type }
  | "jdbcType" => return { p with sqlType }
  | "mode" => return { p with mode := ← Mode.ofName value }
  | "numericScale" =>
    match (Number.readNat? value.toList).filter (· < Number.pow2 32) with
    | some n => return { p with scale := some n }
    | none => throw (.invalidParameter body s!"numericScale '{value}' is not a number")
  | "resultMap" => return { p with resultMap := some value }
  | "typeHandler" | "property" => return p
  | "jdbcTypeName" => return { p with sqlTypeName := some value }
  | "expression" =>
    throw (.invalidParameter body "expression based parameters are not supported")
  | name => throw (.unknownAttribute name body)

/-- Applies the attributes of the placeholder `body` one after the other. -/
def applyAttributes (r : Resolver) (body : String) (sqlType : Option SqlType) (p : Parameter)
    (attributes : List (String × String)) : Except BindError Parameter :=
  attributes.foldlM (fun p (name, value) => r.applyAttribute body sqlType p name value) p

/-- The handler that the last attribute naming one asks for. -/
def requestedHandler (r : Resolver) (attributes : List (String × String)) :
    Except BindError (Option Handler) :=
  match (attributes.filter (·.1 = "typeHandler")).getLast? with
  | none => .ok none
  | some (_, name) => match r.registry.named? name with
    | some h => .ok (some h)
    | none => .error (.unknownHandler name)

/-- The SQL type that the first attribute naming one stands for. -/
def declaredSqlType (p : Placeholder) : Except BindError (Option SqlType) :=
  match p.attribute? Placeholder.typeAttribute with
  | none => .ok none
  | some name => ((SqlType.ofName name).mapError .data).map some

def parameter (r : Resolver) (body : String) : Except BindError Parameter := do
  let placeholder ← Placeholder.parse body
  let sqlType ← declaredSqlType placeholder
  let start := Parameter.ofType placeholder.property (r.inferType placeholder.property sqlType)
  let p ← r.applyAttributes body sqlType start placeholder.attributes
  let handler ← r.requestedHandler placeholder.attributes
  return { p with handler }

/-- What the placeholders have become so far: the offsets of their markers, and the parameters. -/
structure Marks where
  offsets : List Nat
  parameters : List Parameter

/-- Puts a marker in the place of the placeholder `body`, at an offset in the new text. -/
def mark (r : Resolver) (body : List Char) (offset : Nat) :
    StateT Marks (Except BindError) (List Char) := do
  let p ← r.parameter (String.ofList body)
  modify fun m => ⟨m.offsets ++ [offset], m.parameters ++ [p]⟩
  return [BoundStatement.marker]

/-- The statement of a rendered text, without variables. -/
def resolve (r : Resolver) (sql : String) : Except BindError BoundStatement := do
  let (text, marks) ← (Delimiters.placeholder.replace false r.mark sql.toList).run ⟨[], []⟩
  let b : BoundStatement := ⟨text, marks.offsets, marks.parameters, []⟩
  b.validate
  return b

end Resolver

end DynamicSql
