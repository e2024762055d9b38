import DynamicSql.Parameter.Bound
import DynamicSql.Parameter.Registry
import DynamicSql.Path.Navigate

/-!
# Binding parameters

A binder writes the values of the parameters of a statement into its store, and brings the values of
output parameters back into the argument. The handlers that it has chosen are remembered.
-/

namespace DynamicSql

/-- What the choice of a handler depends on. -/
structure HandlerKey where
  property : String
  valueType : DataType
  declaredType : DataType
  sqlType : Option SqlType
  deriving DecidableEq

/-- Chooses handlers for parameters; `nullType` is the SQL type of a null of which none is known. -/
structure Binder where
  registry : Registry
  nullType : SqlType
  chosen : Assoc HandlerKey Handler

/-- A statement that is being bound, and its binder. -/
structure Binding where
  binder : Binder
  store : Store

/-- A step of binding; what it wrote stays also when it fails. -/
abbrev BindStep := EStateM BindError Binding

namespace Binder

/-- A binder that has not chosen any handler yet. -/
def new (registry : Registry) (nullType : SqlType) : Binder := ⟨registry, nullType, []⟩

/-- A document argument as a map or list, which has properties. -/
def navigable (argument : Value) : Value :=
  match argument with
  | .json (.object fields) => Value.ofJson (.object fields)
  | .json (.array items) => Value.ofJson (.array items)
  | v => v

def pathOf (property : String) : Except BindError Path :=
  (Path.parse property).mapError (.property property)

/-- The value of a parameter: a variable comes first, then an argument that is written as a whole,
then a property of the argument. -/
def valueOf (registry : Registry) (b : BoundStatement) (argument : Value) (p : Parameter) :
    Except BindError Value := do
  let path ← pathOf p.property
  let value :=
    if b.hasBinding path.root then (Value.map b.bindings).readAt path
    else if argument.isNull then .ok .null
    else if registry.isDirect argument.dataType then .ok argument
    else argument.readAt path
  value.mapError (.property p.property)

/-- The SQL type with which a value is written. -/
def sqlTypeFor (nullType : SqlType) (p : Parameter) (v : Value) : Option SqlType :=
  match p.sqlType with
  | some t => some t
  | none => if v.isNull then some nullType else none

/-- The handler for a key: the one for the type of the value, else the one for the declared type,
neither of them one that takes everything, else the one for the SQL type, else the one that takes
everything. -/
def choose (registry : Registry) (key : HandlerKey) : Handler :=
  let specific (t : DataType) := (registry.get? t key.sqlType).filter (!·.isGeneric)
  ((specific key.valueType).orElse fun _ => (specific key.declaredType).orElse fun _ =>
    key.sqlType.bind registry.forSqlType?).getD Registry.generic

/-- The handler of a parameter for a value, and the binder that remembers it. A handler that was
asked for is not remembered. -/
def handlerFor (binder : Binder) (p : Parameter) (v : Value) (sqlType : Option SqlType) :
    Handler × Binder :=
  match p.handler with
  | some h => (h, binder)
  | none =>
    let key : HandlerKey := ⟨p.property, v.dataType, p.type, sqlType⟩
    match binder.chosen.find? key with
    | some h => (h, binder)
    | none =>
      let h := choose binder.registry key
      (h, { binder with chosen := binder.chosen.insert key h })

/-- Makes an output parameter known to the statement. -/
def registerOutput (store : Store) (ordinal : Nat) (p : Parameter) : Except BindError Store :=
  match p.sqlType with
  | none => .error (.invalidParameter p.property "output parameters require a jdbcType")
  | some t => store.registerOutput ordinal ⟨t, p.scale, p.sqlTypeName⟩

def declareOutput (ordinal : Nat) (p : Parameter) : BindStep Unit := fun s =>
  match registerOutput s.store ordinal p with
  | .ok store => .ok () { s with store }
  | .error e => .error e s

/-- Writes the value of the parameter at an ordinal. The handler that was chosen is remembered also if
it refuses the value. -/
def writeInput (b : BoundStatement) (argument : Value) (ordinal : Nat) (p : Parameter) :
    BindStep Unit := fun s =>
  match valueOf s.binder.registry b argument p with
  | .error e => .error e s
  | .ok v =>
    let sqlType := sqlTypeFor s.binder.nullType p v
    let (handler, binder) := s.binder.handlerFor p v sqlType
    match handler.setParameter s.store ordinal v sqlType with
    | .ok store => .ok () ⟨binder, store⟩
    | .error e => .error (e.forParameter p.property ordinal handler.name) ⟨binder, s.store⟩

def bindOne (b : BoundStatement) (argument : Value) (ordinal : Nat) (p : Parameter) :
    BindStep Unit := do
  if p.mode.isOutput then declareOutput ordinal p
  if p.mode.isInput then writeInput b argument ordinal p

/-- Binds parameters, the first of them at an ordinal. -/
def bindFrom (b : BoundStatement) (argument : Value) : Nat → List Parameter → BindStep Unit
  | _, [] => return ()
  | ordinal, p :: rest => do
    bindOne b argument ordinal p
    bindFrom b argument (ordinal + 1) rest

/-- Binds all parameters of a statement; the first fault ends it. -/
def bind (b : BoundStatement) (argument : Value) : BindStep Unit := do
  match b.validate with
  | .error e => throw e
  | .ok _ => bindFrom b (navigable argument) 1 b.parameters

/-- The handler for the value of an output parameter, of which only the declared types are known. -/
def outputHandler (registry : Registry) (p : Parameter) : Handler :=
  p.handler.getD <|
    ((registry.get? p.type p.sqlType).orElse fun _ => p.sqlType.bind registry.forSqlType?).getD
      Registry.generic

/-- The value of the output parameter at an ordinal, and the path at which it goes into the
argument. -/
def outputOf (registry : Registry) (store : Store) (ordinal : Nat) (p : Parameter) :
    Except BindError (Value × Path) := do
  match store.output? ordinal with
  | none => throw (.missingOutput ordinal p.sqlType)
  | some raw =>
    let handler := outputHandler registry p
    let v ← (handler.result raw).mapError
      (BindError.forParameter p.property ordinal handler.name)
    let path ← pathOf p.property
    return (v, path)

def applyOne (registry : Registry) (store : Store) (ordinal : Nat) (p : Parameter)
    (argument : Value) : EStateM.Result BindError Value Unit :=
  if p.mode.isOutput then
    match outputOf registry store ordinal p with
    | .error e => .error e argument
    | .ok (v, path) =>
      let written := argument.writeAt path v
      match written.error with
      | none => .ok () written.value
      | some e => .error (.property p.property e) written.value
  else .ok () argument

/-- Brings output values into the argument, the first parameter being at an ordinal. -/
def applyFrom (registry : Registry) (store : Store) :
    Nat → List Parameter → EStateM BindError Value Unit
  | _, [] => return ()
  | ordinal, p :: rest => do
    applyOne registry store ordinal p
    applyFrom registry store (ordinal + 1) rest

/-- Brings the values of all output parameters into the argument; the first fault ends it. -/
def applyOutputs (registry : Registry) (store : Store) (b : BoundStatement) :
    EStateM BindError Value Unit :=
  applyFrom registry store 1 b.parameters

end Binder

end DynamicSql
