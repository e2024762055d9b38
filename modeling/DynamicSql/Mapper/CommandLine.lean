import DynamicSql.Json.Printer
import DynamicSql.Mapper.Session
import DynamicSql.Value.Json

/-!
# The command line

`render` shows what one statement is for an argument and what is bound to its parameters. `check`
lists the statements of mappers. Both read mappers from files and report in JSON.

A run is a function of its words and of the files that it can read; the report, and the file it is
meant for, are part of the result.
-/

namespace DynamicSql.CommandLine

/-! ## Words -/

/-- What `render` is told. -/
structure RenderOptions where
  mappers : List String
  statement : String
  params : Option String
  dialect : String
  settings : Option String
  output : Option String
  deriving DecidableEq

/-- What `check` is told. -/
structure CheckOptions where
  mappers : List String
  settings : Option String
  deriving DecidableEq

/-- What a command line asks for. -/
inductive Request where
  | render (options : RenderOptions)
  | check (options : CheckOptions)
  | help
  | version
  deriving DecidableEq

/-- An option of a command. -/
inductive Flag where
  | mapper
  | statement
  | params
  | dialect
  | settings
  | output
  deriving DecidableEq

def Flag.word : Flag → String
  | mapper => "--mapper"
  | statement => "--statement"
  | params => "--params"
  | dialect => "--dialect"
  | settings => "--settings"
  | output => "--output"

def renderFlags : List Flag := [.mapper, .statement, .params, .dialect, .settings, .output]

def checkFlags : List Flag := [.mapper, .settings]

/-- Whether a word begins an option and so cannot be the value of one. A single dash is a value. -/
def isFlagLike (word : String) : Bool :=
  match word.toList with
  | '-' :: _ :: _ => true
  | _ => false

def asksForHelp (word : String) : Bool :=
  word == "--help" || "-h".toList.isPrefixOf word.toList

/-- Splits `--name=value`. -/
def splitEquals (word : String) : String × Option String :=
  let name := word.toList.takeWhile (· ≠ '=')
  match word.toList.drop name.length with
  | [] => (word, none)
  | _ :: value => (String.ofList name, some (String.ofList value))

/-- Options with their values, in the order in which they were given. -/
abbrev Given := List (Flag × String)

/-- What reading the words behind a command comes to. -/
inductive Words where
  | given (options : Given)
  | help
  | misuse
  deriving DecidableEq

/-- Whether an option must not be given again. Only mappers may be given more than once. -/
def isRepeated (given : Given) (flag : Flag) : Bool :=
  flag != .mapper && given.any (·.1 == flag)

/-- Reads options, behind those already given. -/
def readOptions (flags : List Flag) (given : Given) : List String → Words
  | [] => .given given
  | word :: rest =>
    -- nothing may follow the end of the options
    if word == "--" then (if rest.isEmpty then .given given else .misuse)
    else if asksForHelp word then .help
    else
      let (name, attached) := splitEquals word
      match flags.find? fun flag => flag.word == name with
      | none => .misuse
      | some flag =>
        if isRepeated given flag then .misuse
        else match attached with
          | some v => readOptions flags (given ++ [(flag, v)]) rest
          | none => match rest with
            | v :: rest =>
              if isFlagLike v then .misuse else readOptions flags (given ++ [(flag, v)]) rest
            | [] => .misuse

def value? (given : Given) (flag : Flag) : Option String := given.lookup flag

def values (given : Given) (flag : Flag) : List String :=
  (given.filter (·.1 == flag)).map Prod.snd

/-- The dialect if none is given. -/
def defaultDialect : String := "mysql"

/-- The request of `render` with options; a mapper and a statement must be given. -/
def renderRequest? (given : Given) : Option Request := do
  let mappers := values given .mapper
  if mappers.isEmpty then none
  else
    let statement ← value? given .statement
    return .render {
      mappers
      statement
      params := value? given .params
      dialect := (value? given .dialect).getD defaultDialect
      settings := value? given .settings
      output := value? given .output }

/-- The request of `check` with options; a mapper must be given. -/
def checkRequest? (given : Given) : Option Request :=
  let mappers := values given .mapper
  if mappers.isEmpty then none else some (.check ⟨mappers, value? given .settings⟩)

def requestOf? (flags : List Flag) (ofGiven? : Given → Option Request) (words : List String) :
    Option Request :=
  match readOptions flags [] words with
  | .given given => ofGiven? given
  | .help => some .help
  | .misuse => none

/-- Reads a command line. -/
def parse? : List String → Option Request
  | [] => none
  | "render" :: rest => requestOf? renderFlags renderRequest? rest
  | "check" :: rest => requestOf? checkFlags checkRequest? rest
  | "help" :: rest => if rest ∈ [[], ["render"], ["check"], ["help"]] then some .help else none
  | word :: _ =>
    if asksForHelp word then some .help
    else if word == "--version" || "-V".toList.isPrefixOf word.toList then some .version
    else none

/-! ## Runs -/

/-- Why a run fails. -/
inductive Failure where
  | fileRead (reason : String)
  | paramsParse
  | invalidDialect (name : String)
  | mapper (e : MapperError)
  deriving DecidableEq

/-- A name for what is wrong, whatever it is wrong with. -/
def Failure.label : Failure → String
  | fileRead _ => "FileRead"
  | paramsParse => "ParamsParse"
  | invalidDialect _ => "InvalidDialect"
  | mapper e => "Mapper." ++ e.label

def Failure.message : Failure → String
  | fileRead reason => s!"Failed to read file: {reason}"
  | paramsParse => "Failed to parse statement argument as JSON"
  | invalidDialect name => s!"Invalid dialect provided: {name}"
  | mapper e => e.message

/-- Gives the text of a file, or the reason why there is none. -/
abbrev Reader := String → Except String String

def loadSettings (read : Reader) : Option String → Except MapperError Settings
  | none => .ok Settings.default
  | some path => do
    let text ← (read path).mapError .io
    Settings.parse path text

/-- Loads the mappers of files, one after the other. -/
def loadMappers (read : Reader) : List String → Loading Unit
  | [] => return ()
  | path :: rest => do
    match read path with
    | .error reason => throw (.io reason)
    | .ok text => match Document.parse path text with
      | .error e => throw e
      | .ok d => discard (Configuration.addMapper d)
    loadMappers read rest

def load (read : Reader) (mappers : List String) (settings : Option String) :
    Except Failure Configuration := do
  let settings ← (loadSettings read settings).mapError .mapper
  match loadMappers read mappers (Configuration.new settings) with
  | .ok _ c => return c
  | .error e _ => throw (.mapper e)

/-- The argument of a statement as it is written on the command line. -/
def argumentOf : Option String → Except Failure Value
  | none => .ok .null
  | some text => match Json.readCanonical? text with
    | some j => .ok (Value.ofJson j)
    | none => .error .paramsParse

/-- What is reported of the parameter at an ordinal: what has been written for it and made known of
it to the statement, and otherwise what it says itself. -/
def parameterReport (store : Store) (ordinal : Nat) (p : Parameter) : Json :=
  let input := store.inputs.find? ordinal
  let sqlType := ((input.bind (·.sqlType)).orElse fun _ =>
    (store.outputs.find? ordinal).map (·.sqlType)).orElse fun _ => p.sqlType
  .object [
    ("ordinal", .int ordinal),
    ("property", .string p.property),
    ("mode", .string p.mode.name),
    ("sql_type", (sqlType.map fun t => Json.string t.name).getD .null),
    ("value", (input.map fun i => i.value.toJson).getD .null)]

def renderReport (statement sql : String) (bound : BoundStatement) (store : Store) : Json :=
  .object [
    ("statement", .string statement),
    ("sql", .string sql),
    ("parameters", .array (bound.parameters.mapIdx fun i p => parameterReport store (i + 1) p))]

def statementReport (s : MappedStatement) : Json :=
  .object [
    ("id", .string s.id),
    ("kind", .string s.command.name),
    ("dynamic", .bool s.source.isDynamic)]

def checkReport (c : Configuration) : Json :=
  .object [("statements", .array (c.statements.values.map statementReport))]

def runRender (read : Reader) (o : RenderOptions) : Except Failure Json := do
  let c ← load read o.mappers o.settings
  let argument ← argumentOf o.params
  match Dialect.ofName o.dialect with
  | .error _ => throw (.invalidDialect o.dialect)
  | .ok dialect => match c.prepare o.statement argument c.session with
    | .error e _ => throw (.mapper e)
    | .ok bound session =>
      return renderReport o.statement (bound.sqlFor dialect) bound session.binding.store

def runCheck (read : Reader) (o : CheckOptions) : Except Failure Json := do
  let c ← load read o.mappers o.settings
  return checkReport c

/-- What a run comes to. -/
inductive Outcome where
  /-- The text goes to standard output, and a line break after it. -/
  | print (text : String)
  /-- The text goes to a file. -/
  | write (path text : String)
  /-- The run fails. -/
  | fail (failure : Failure)
  /-- The command line cannot be read. -/
  | misuse

/-- The name and version of the program. -/
def versionText : String := "mapper 0.1.0"

/-- How the program is used. -/
def usageText : String :=
  "Dynamic SQL mapper tool\n\n" ++
  "Usage: mapper render --mapper <FILE>... --statement <ID> [--params <JSON>]\n" ++
  "           [--dialect <DIALECT>] [--settings <FILE>] [--output <FILE>]\n" ++
  "       mapper check --mapper <FILE>... [--settings <FILE>]"

def runRequest (read : Reader) : Request → Outcome
  | .help => .print usageText
  | .version => .print versionText
  | .check o => match runCheck read o with
    | .ok report => .print (report.indentedText 0)
    | .error failure => .fail failure
  | .render o => match runRender read o with
    | .ok report => match o.output with
      | some path => .write path (report.indentedText 0)
      | none => .print (report.indentedText 0)
    | .error failure => .fail failure

/-- Runs a command line. -/
def run (read : Reader) (words : List String) : Outcome :=
  match parse? words with
  | some request => runRequest read request
  | none => .misuse

def Request.files : Request → List String
  | .render o => o.settings.toList ++ o.mappers
  | .check o => o.settings.toList ++ o.mappers
  | .help | .version => []

end DynamicSql.CommandLine
