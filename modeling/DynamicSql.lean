import DynamicSql.Main
import DynamicSql.Value.Tagged
import DynamicSql.Proofs.Parameter.Marker
import DynamicSql.Proofs.Step
import DynamicSql.Proofs.Template.Render
import DynamicSql.Proofs.Template.Trace
import DynamicSql.Proofs.Parameter.Injection
import DynamicSql.Proofs.Parameter.Untyped
import DynamicSql.Proofs.Mapper.FastPath
import DynamicSql.Proofs.Parameter.Defaults
import DynamicSql.Proofs.Mapper.ContextReads
import DynamicSql.Proofs.Parameter.Bare
import DynamicSql.Proofs.Parameter.Lexeme
import DynamicSql.Proofs.Template.Trimmed
import DynamicSql.Proofs.Template.Variable
import DynamicSql.Proofs.Template.Itemized
import DynamicSql.Proofs.Template.Scope
import DynamicSql.Proofs.Template.Lexical
import DynamicSql.Proofs.Parameter.Lexical
import DynamicSql.Proofs.Parameter.Memory
import DynamicSql.Proofs.Expr.Printed
import DynamicSql.Proofs.Parameter.Agreement
import DynamicSql.Proofs.Parameter.Evaluated
import DynamicSql.Proofs.Template.Framed
import DynamicSql.Proofs.Parameter.Refused
import DynamicSql.Proofs.Mapper.Loading
import DynamicSql.Proofs.Path.Lens
import DynamicSql.Proofs.Parameter.Outputs
import DynamicSql.Proofs.Template.Visits
import DynamicSql.Proofs.Parameter.Shared
import DynamicSql.Proofs.Mapper.Registration
import DynamicSql.Proofs.Mapper.Chain
import DynamicSql.Proofs.Mapper.Fragments
import DynamicSql.Proofs.Mapper.ObjectArgument
import DynamicSql.Proofs.Template.Rescan
import DynamicSql.Proofs.Template.Iterations
import DynamicSql.Proofs.Mapper.Faults
import DynamicSql.Proofs.Parameter.Effect
import DynamicSql.Proofs.Path.Atomic
import DynamicSql.Proofs.Template.Dropped
import DynamicSql.Proofs.Template.Filters
import DynamicSql.Proofs.Template.Occurrence
import DynamicSql.Proofs.Template.Replaced
import DynamicSql.Proofs.Path.Chained
import DynamicSql.Proofs.Template.Cycles
import DynamicSql.Proofs.Template.Substituted
import DynamicSql.Proofs.Parameter.Interrupted
import DynamicSql.Proofs.Path.Declared
import DynamicSql.Proofs.Expr.Names
import DynamicSql.Proofs.Expr.Arithmetic
import DynamicSql.Proofs.Parameter.Coerced
import DynamicSql.Proofs.Value.Compared
import DynamicSql.Proofs.Parameter.Permuted
import DynamicSql.Proofs.Parameter.Registered
import DynamicSql.Proofs.Mapper.Named
import DynamicSql.Proofs.Template.Selected
import DynamicSql.Proofs.Dialect
import DynamicSql.Proofs.Mapper.Lookup
