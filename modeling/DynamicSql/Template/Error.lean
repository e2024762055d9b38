import DynamicSql.Expr.Error

/-!
# Errors of templates
-/

namespace DynamicSql

/-- Why a template cannot be built or rendered. -/
inductive TemplateError where
  | invalidExpression (expression : String) (cause : ExprError)
  | multipleOtherwise
  | unknownElement (tag : String)
  | missingAttribute (tag attr : String)
  | unknownFragment (id : String)
  | circularInclude (id : String)
  | evaluation (expression : String) (cause : ExprError)
  | collection (expression : String) (cause : ExprError)
  deriving DecidableEq

namespace TemplateError

/-- A name for what is wrong, whatever it is wrong with. -/
def label : TemplateError → String
  | invalidExpression .. => "InvalidExpression"
  | multipleOtherwise => "MultipleOtherwise"
  | unknownElement _ => "UnknownElement"
  | missingAttribute .. => "MissingAttribute"
  | unknownFragment _ => "UnknownFragment"
  | circularInclude _ => "CircularInclude"
  | evaluation .. => "Evaluation"
  | collection .. => "Collection"

def cause? : TemplateError → Option ExprError
  | invalidExpression _ cause | evaluation _ cause | collection _ cause => some cause
  | _ => none

def message : TemplateError → String
  | invalidExpression expression cause => s!"Invalid expression '{expression}': {cause.message}"
  | multipleOtherwise => "Too many default (otherwise) elements in choose statement"
  | unknownElement tag => s!"Unknown element <{tag}> in SQL statement"
  | missingAttribute tag attr => s!"Missing required attribute '{attr}' on <{tag}>"
  | unknownFragment id => s!"Unknown SQL fragment '{id}'"
  | circularInclude id => s!"Circular include of SQL fragment '{id}'"
  | evaluation expression cause =>
    s!"Error evaluating expression '{expression}': {cause.message}"
  | collection expression cause => s!"Invalid loop collection '{expression}': {cause.message}"

/-- Whether the error arises while a template is built, before it is rendered. -/
def isConfiguration : TemplateError → Bool
  | evaluation .. | collection .. => false
  | _ => true

/-- Whether the error is about a value that a loop cannot go through. -/
def isBinding : TemplateError → Bool
  | collection .. => true
  | _ => false

/-- The expression, element or fragment that the error is about. -/
def token? : TemplateError → Option String
  | invalidExpression expression _ | evaluation expression _ | collection expression _ =>
    some expression
  | unknownElement name | unknownFragment name | circularInclude name => some name
  | missingAttribute tag _ => some tag
  | multipleOtherwise => none

end TemplateError

end DynamicSql
