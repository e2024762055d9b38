import DynamicSql.Json.Reader
import DynamicSql.Mapper.Command
import DynamicSql.Mapper.Error
import DynamicSql.Template.Element
import DynamicSql.Text.Blank

/-!
# Mapper documents

A mapper document has the statements of a namespace, and fragments that statements include.
-/

namespace DynamicSql

/-- A statement as it is written in a document. -/
structure Definition where
  id : String
  command : Command
  /-- The name of the type of the argument. -/
  parameterType : Option String
  /-- The only database that the statement is for. -/
  databaseId : Option String
  body : List Element

/-- The statements and fragments of a namespace. -/
structure Document where
  namespaceId : String
  fragments : Table String (List Element)
  statements : List Definition

namespace Document

/-- Reads a command: its word, or an object with the word as the only name and null under it. -/
private def command? : Json → Option Command
  | .string word => Command.ofWord? word
  | .object [(word, .null)] => Command.ofWord? word
  | _ => none

private def body? : Json → Option (List Element) := Json.arrayOf? Element.read?

private def readDefinitionMember (d : Definition) (name : String) :
    Json.Reader Empty Definition := do
  match name with
  | "id" => return { d with id := ← .readAs Json.string? }
  | "kind" => return { d with command := ← .readAs command? }
  | "parameterType" => return { d with parameterType := ← .readAs (Json.nullable? Json.string?) }
  | "databaseId" => return { d with databaseId := ← .readAs (Json.nullable? Json.string?) }
  | _ => return { d with body := ← .readAs body? }

/-- Reads a statement; without a command it is a select. -/
def definitionReader : Json.Reader Empty Definition :=
  .members ["id", "kind", "parameterType", "databaseId", "body"] ["id", "body"]
    ⟨"", .select, none, none, []⟩ readDefinitionMember

private def readDocumentMember (d : Document) (name : String) : Json.Reader Empty Document := do
  match name with
  | "namespace" => return { d with namespaceId := ← .readAs Json.string? }
  | "fragments" => return { d with fragments := ← .readAs (Json.objectOf? body?) }
  | _ => return { d with statements := ← .array definitionReader }

/-- Reads a document without looking at its ids. -/
def reader : Json.Reader Empty Document :=
  .members ["namespace", "fragments", "statements"] ["namespace"] ⟨"", [], []⟩ readDocumentMember

/-- Whether an id may stand behind a namespace: it is not empty, and has no point. -/
def isId (id : String) : Bool := !id.isEmpty && !id.toList.contains '.'

/-- The ids of a document, those of fragments first. -/
def ids (d : Document) : List String := d.fragments.keys ++ d.statements.map (·.id)

/-- What is wrong with the names in a document. -/
def fault? (d : Document) : Option DocumentFault :=
  if Text.allBlank d.namespaceId.toList then some .missingNamespace
  else (d.ids.find? (!isId ·)).map .invalidId

/-- Reads the text of a document; `source` names it in errors. -/
def parse (source text : String) : Except MapperError Document := do
  let d ← (reader.run text).mapError fun _ => .document source .malformed
  match d.fault? with
  | some fault => throw (.document source fault)
  | none => return d

end Document

end DynamicSql
