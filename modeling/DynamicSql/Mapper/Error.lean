import DynamicSql.Parameter.Error
import DynamicSql.Template.Error

/-!
# Errors of mappers
-/

namespace DynamicSql

/-- How the caller can deal with an error: by mending the mapper, by calling with an argument on
which the expressions can be evaluated, or by calling with values that can be bound. -/
inductive ErrorKind where
  | configuration
  | evaluation
  | binding
  deriving DecidableEq

def ErrorKind.name : ErrorKind → String
  | configuration => "Configuration"
  | evaluation => "Evaluation"
  | binding => "Binding"

/-- What is wrong with a document. -/
inductive DocumentFault where
  | malformed
  | missingNamespace
  | invalidId (id : String)
  deriving DecidableEq

def DocumentFault.message : DocumentFault → String
  | malformed => "the text does not have the form of such a document"
  | missingNamespace => "namespace is required"
  | invalidId id => s!"invalid id '{id}'"

/-- Why a mapper cannot be loaded, or a statement cannot be prepared. -/
inductive MapperError where
  | template (statement : String) (cause : TemplateError)
  | binding (statement : String) (cause : BindError)
  | unknownStatement (id : String)
  | ambiguousStatement (id : String)
  | duplicateStatement (id : String)
  | document (source : String) (fault : DocumentFault)
  | rejected (interceptor statement reason : String)
  | io (reason : String)
  deriving DecidableEq

namespace MapperError

/-- A name for what is wrong, whatever it is wrong with. -/
def label : MapperError → String
  | template .. => "Template"
  | binding .. => "Binding"
  | unknownStatement _ => "UnknownStatement"
  | ambiguousStatement _ => "AmbiguousStatement"
  | duplicateStatement _ => "DuplicateStatement"
  | document .. => "Document"
  | rejected .. => "Interceptor"
  | io _ => "Io"

def message : MapperError → String
  | template statement cause =>
    s!"Error building SQL for statement '{statement}': {cause.message}"
  | binding statement cause =>
    s!"Error binding parameters for statement '{statement}': {cause.message}"
  | unknownStatement id => s!"Mapped statements collection does not contain value for '{id}'"
  | ambiguousStatement id => s!"Statement id '{id}' is ambiguous; use the fully qualified id"
  | duplicateStatement id => s!"Mapped statement '{id}' is already registered"
  | document source fault => s!"Invalid mapper document '{source}': {fault.message}"
  | rejected interceptor statement reason =>
    s!"Interceptor '{interceptor}' rejected statement '{statement}': {reason}"
  | io reason => s!"IO error: {reason}"

/-- The kind of an error; where an error has a cause, the cause decides. -/
def kind : MapperError → ErrorKind
  | template _ cause =>
    if cause.isBinding then .binding
    else if cause.isConfiguration then .configuration
    else .evaluation
  | binding _ cause => if cause.isConfiguration then .configuration else .binding
  | rejected .. => .binding
  | unknownStatement _ | ambiguousStatement _ | duplicateStatement _ | document .. | io _ =>
    .configuration

def statement? : MapperError → Option String
  | template id _ | binding id _ | rejected _ id _ | unknownStatement id | ambiguousStatement id
  | duplicateStatement id => some id
  | document .. | io _ => none

end MapperError

end DynamicSql
