import DynamicSql.Mapper.Document
import DynamicSql.Mapper.Interceptor
import DynamicSql.Mapper.Settings
import DynamicSql.Parameter.Binder
import DynamicSql.Template.Build

/-!
# Configurations

A configuration holds the statements of all mappers by their full ids. Mappers are loaded one by one;
what a mapper has added before a fault in it stays.
-/

namespace DynamicSql

/-- Everything that statements are prepared with. -/
structure Configuration where
  settings : Settings
  registry : Registry
  aliases : Aliases
  library : Library
  statements : Table String MappedStatement
  interceptors : List Interceptor

/-- A step of loading. -/
abbrev Loading := EStateM MapperError Configuration

namespace Configuration

/-- A configuration without statements. -/
def new (settings : Settings) : Configuration where
  settings
  registry := Registry.defaults
  aliases := Aliases.empty
  library := { Library.empty with vars := settings.vars }
  statements := []
  interceptors := []

/-- The configuration with one more interceptor, behind the others. -/
def withInterceptor (c : Configuration) (i : Interceptor) : Configuration :=
  { c with interceptors := c.interceptors ++ [i] }

def withFragment (c : Configuration) (id : String) (body : List Element) : Configuration :=
  { c with library := c.library.addFragment id body }

/-! ## Loading -/

def qualified (namespaceId id : String) : String := namespaceId ++ "." ++ id

/-- Whether a statement for a database, or for all, is to be used: the one for the configured
database is, and the one for all is unless there is a statement of the same id for a database. -/
def isForDatabase (c : Configuration) (id : String) (databaseId : Option String) : Bool :=
  match databaseId with
  | some declared => c.settings.databaseId == some declared
  | none => !((c.statements.find? id).any (·.databaseId.isSome))

/-- Whether a statement for a database, or for all, can take the place of the one under its id. -/
def canReplace (c : Configuration) (id : String) (databaseId : Option String) : Bool :=
  match c.statements.find? id with
  | some present => present.databaseId.isNone && databaseId.isSome
  | none => true

def statementOf (c : Configuration) (library : Library) (id : String) (d : Definition) :
    Except MapperError MappedStatement := do
  let parameterType ← d.parameterType.mapM fun name =>
    (c.aliases.resolve name).mapError fun e => .binding id (.data e)
  let template ← (library.build d.body).mapError (.template id)
  let source ← Source.ofTemplate id template parameterType c.registry c.aliases
  return ⟨id, d.command, parameterType, d.databaseId, source⟩

/-- Adds a statement, with `library` for the fragments it includes. The result tells whether it is
for the configured database; if not, it is left out. -/
def addStatement (namespaceId : String) (library : Library) (d : Definition) : Loading Bool :=
  fun c =>
    let id := qualified namespaceId d.id
    if !c.isForDatabase id d.databaseId then .ok false c
    else if !c.canReplace id d.databaseId then .error (.duplicateStatement id) c
    else match c.statementOf library id d with
      | .error e => .error e c
      | .ok s => .ok true { c with statements := c.statements.insert id s }

/-- Adds statements, and counts those that are for the configured database. -/
def addStatements (namespaceId : String) (library : Library) : List Definition → Loading Nat
  | [] => return 0
  | d :: rest => do
    let added ← addStatement namespaceId library d
    let count ← addStatements namespaceId library rest
    return if added then count + 1 else count

/-- Adds the fragments and statements of a document, and counts the statements that are for the
configured database. The fragments go by their full ids in every later mapper, and by their bare ids
in the document itself. -/
def addMapper (d : Document) : Loading Nat := do
  modify fun c => d.fragments.foldl
    (fun c (id, body) => c.withFragment (qualified d.namespaceId id) body) c
  let library := d.fragments.foldl (fun l (id, body) => l.addFragment id body) (← get).library
  addStatements d.namespaceId library d.statements

/-! ## Statements -/

/-- The statement of an id: a full id, or a short id that only one statement has. -/
def statement (c : Configuration) (id : String) : Except MapperError MappedStatement :=
  match c.statements.find? id with
  | some s => .ok s
  | none => match (ShortIds.ofStatements c.statements.values).find? id with
    | none => .error (.unknownStatement id)
    | some none => .error (.ambiguousStatement id)
    | some (some fullId) => match c.statements.find? fullId with
      | some s => .ok s
      | none => .error (.unknownStatement id)

def hasStatement (c : Configuration) (id : String) : Bool := (c.statement id).isOk

/-- The full ids of all statements, in order. -/
def statementIds (c : Configuration) : List String := c.statements.keys

def binder (c : Configuration) : Binder := Binder.new c.registry c.settings.nullType

end Configuration

end DynamicSql
