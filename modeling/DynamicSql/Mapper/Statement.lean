import DynamicSql.Mapper.Command
import DynamicSql.Mapper.Error
import DynamicSql.Parameter.Resolve
import DynamicSql.Template.Render

/-!
# Mapped statements

A statement whose template does not depend on the argument is rendered and resolved once, when it is
loaded. Every other one is rendered and resolved anew for each argument.
-/

namespace DynamicSql

/-- Where the text of a statement comes from. -/
inductive Source where
  /-- The statement is the same for every argument. -/
  | fixed (statement : BoundStatement)
  /-- The template is rendered for every argument. -/
  | dynamic (template : Node)

namespace Source

/-- The source of a template; the statement's id is for errors, and `type` is the declared type of
its argument. -/
def ofTemplate (id : String) (template : Node) (type : Option DataType) (registry : Registry)
    (aliases : Aliases) : Except MapperError Source :=
  if template.isDynamic then .ok (.dynamic template)
  else do
    let rendered ← (template.renderFor .null none).mapError (.template id)
    let resolver : Resolver := ⟨registry, aliases, type.getD .any, []⟩
    let statement ← (resolver.resolve rendered.sql).mapError (.binding id)
    return .fixed statement

/-- Whether the template is rendered for every argument. -/
def isDynamic : Source → Bool
  | fixed _ => false
  | dynamic _ => true

end Source

/-- The part of an id behind its last point. -/
def shortIdOf (id : String) : String :=
  String.ofList (Text.takeEndWhile (· ≠ '.') id.toList)

/-- A statement under its full id. -/
structure MappedStatement where
  id : String
  command : Command
  /-- The declared type of the argument. -/
  parameterType : Option DataType
  databaseId : Option String
  source : Source

namespace MappedStatement

/-- The id without its namespace. -/
def shortId (s : MappedStatement) : String := shortIdOf s.id

/-- The statement for an argument. Without a declared type the argument's own type counts. -/
def bindTo (s : MappedStatement) (argument : Value) (databaseId : Option String)
    (registry : Registry) (aliases : Aliases) : Except MapperError BoundStatement :=
  match s.source with
  | .fixed statement => .ok statement
  | .dynamic template => do
    let rendered ← (template.renderFor argument databaseId).mapError (.template s.id)
    let type := s.parameterType.getD argument.dataType
    let resolver : Resolver := ⟨registry, aliases, type, rendered.bindings⟩
    let statement ← (resolver.resolve rendered.sql).mapError (.binding s.id)
    return statement.withBindings rendered.bindings

end MappedStatement

/-- The full ids that short ids stand for. A short id that several statements have stands for none. -/
abbrev ShortIds := Table String (Option String)

namespace ShortIds

/-- The short ids of statements, and that of one more. -/
def add (ids : ShortIds) (s : MappedStatement) : ShortIds :=
  ids.insert s.shortId (if ids.contains s.shortId then none else some s.id)

/-- The short ids of statements. -/
def ofStatements (statements : List MappedStatement) : ShortIds := statements.foldl add []

end ShortIds

end DynamicSql
