import DynamicSql.Mapper.Statement

/-!
# Interceptors

An interceptor may change a statement before its values are bound, and may refuse the call. What an
interceptor notes about a call is kept also when a later one refuses it.
-/

namespace DynamicSql

/-- A hook into the preparation of statements. -/
structure Interceptor where
  name : String
  /-- Changes a statement that has been rendered, or gives the reason why it must not be used. -/
  onRender : MappedStatement → BoundStatement → Value → Except String BoundStatement
  /-- Looks at a statement that is about to be bound and notes something about it, or gives the
  reason why it must not be used. -/
  onBind : MappedStatement → BoundStatement → Value → Except String (List String)

namespace Interceptor

def passive (name : String) : Interceptor where
  name
  onRender := fun _ bound _ => .ok bound
  onBind := fun _ _ _ => .ok []

def rejection (i : Interceptor) (s : MappedStatement) (reason : String) : MapperError :=
  .rejected i.name s.id reason

/-- Passes a rendered statement through interceptors, the first of them first. -/
def render (interceptors : List Interceptor) (s : MappedStatement) (bound : BoundStatement)
    (argument : Value) : Except MapperError BoundStatement :=
  interceptors.foldlM (fun bound i => (i.onRender s bound argument).mapError (i.rejection s)) bound

/-- Shows a statement to interceptors, and adds what they note. -/
def bind (s : MappedStatement) (bound : BoundStatement) (argument : Value) :
    List Interceptor → EStateM MapperError (List String) Unit
  | [] => return ()
  | i :: rest => do
    match i.onBind s bound argument with
    | .ok notes => modify fun noted => noted ++ notes
    | .error reason => throw (i.rejection s reason)
    bind s bound argument rest

/-! ## Paging -/

/-- The property of the argument that tells how many rows are asked for. -/
def limitKey : String := "limit"

/-- The property of the argument that tells how many rows are passed over. -/
def offsetKey : String := "offset"

/-- The variable for the rows passed over if the argument does not tell. -/
def defaultOffsetKey : String := "__offset"

/-- The statement with a limit and an offset; an offset that the argument does not have is 0. -/
def paged (bound : BoundStatement) (hasOffset : Bool) : BoundStatement :=
  let number (property : String) := Parameter.ofType property .int
  let limited := (bound.pushSql " LIMIT ").pushParameter (number limitKey) |>.pushSql " OFFSET "
  if hasOffset then limited.pushParameter (number offsetKey)
  else (limited.bindValue defaultOffsetKey (.int 0)).pushParameter (number defaultOffsetKey)

/-- Adds limit and offset to selects whose argument has a limit. -/
def pagination : Interceptor :=
  { passive "pagination" with
    onRender := fun s bound argument =>
      match argument with
      | .map m =>
        if s.command = .select ∧ Table.contains m limitKey then
          .ok (paged bound (Table.contains m offsetKey))
        else .ok bound
      | _ => .ok bound }

/-! ## Reading only -/

/-- Refuses deletes. -/
def readOnly : Interceptor :=
  { passive "read-only" with
    onBind := fun s _ _ =>
      if s.command = .delete then .error "deletes are disabled" else .ok [] }

/-! ## Auditing -/

/-- Notes each statement and the number of its parameters. -/
def audit : Interceptor :=
  { passive "audit" with
    onBind := fun s bound _ => .ok [s!"{s.id} ({bound.parameters.length} params)"] }

end Interceptor

end DynamicSql
