import DynamicSql.Mapper.Arguments
import DynamicSql.Mapper.Configuration

/-!
# Sessions

Statements of a configuration are prepared for arguments: rendered, passed through the interceptors,
and bound.
-/

namespace DynamicSql

/-- What the preparation of a statement writes: the parameters of the statement, the handlers that
the binder has chosen, and what the interceptors have noted. -/
structure Session where
  binding : Binding
  notes : List String

/-- A step of preparation; what it wrote stays also when it fails. -/
abbrev Preparing := EStateM MapperError Session

namespace Configuration

/-- A session in which nothing has been prepared. -/
def session (c : Configuration) : Session := ⟨⟨c.binder, Store.empty⟩, []⟩

def arguments (c : Configuration) (declared : List (Option String)) (values : List Value) : Value :=
  Arguments.combine c.settings.useActualNames declared values

def render (c : Configuration) (s : MappedStatement) (argument : Value) :
    Except MapperError BoundStatement := do
  let bound ← s.bindTo argument c.settings.databaseId c.registry c.aliases
  let bound ← Interceptor.render c.interceptors s bound argument
  bound.validate.mapError (.binding s.id)
  return bound

/-- The statement of an id for an argument; nothing is bound. -/
def boundStatement (c : Configuration) (id : String) (argument : Value) :
    Except MapperError BoundStatement := do
  let s ← c.statement id
  c.render s argument

/-- Shows a statement to the interceptors before it is bound. -/
def observe (c : Configuration) (s : MappedStatement) (bound : BoundStatement) (argument : Value) :
    Preparing Unit := fun session =>
  match Interceptor.bind s bound argument c.interceptors session.notes with
  | .ok _ notes => .ok () { session with notes }
  | .error e notes => .error e { session with notes }

/-- Writes the parameters of a statement. -/
def write (s : MappedStatement) (bound : BoundStatement) (argument : Value) : Preparing Unit :=
  fun session =>
    match Binder.bind bound argument session.binding with
    | .ok _ binding => .ok () { session with binding }
    | .error e binding => .error (.binding s.id e) { session with binding }

def prepare (c : Configuration) (id : String) (argument : Value) : Preparing BoundStatement := do
  let s ← liftExcept (c.statement id)
  let bound ← liftExcept (c.render s argument)
  c.observe s bound argument
  write s bound argument
  return bound
where
  /-- A calculation as a step that writes nothing. -/
  liftExcept {α : Type} : Except MapperError α → Preparing α
    | .ok a => return a
    | .error e => throw e

/-- Brings the values of output parameters into the argument. -/
def applyOutputs (c : Configuration) (id : String) (bound : BoundStatement) (store : Store) :
    EStateM MapperError Value Unit := fun argument =>
  match Binder.applyOutputs c.registry store bound argument with
  | .ok _ argument => .ok () argument
  | .error e argument => .error (.binding id e) argument

end Configuration

end DynamicSql
