import DynamicSql.Template.Delimited
import DynamicSql.Template.Element
import DynamicSql.Template.Node

/-!
# Building templates

Elements become a template. Configured variables are put into texts and attributes, once and for all,
and fragments into the places that include them. A fragment that would be included in itself is
refused, so no chain of includes is longer than the number of fragments.
-/

namespace DynamicSql

/-- The text with each token `${name}` of a known variable replaced by the variable's value; other
tokens stay as they are. -/
def substitute (vars : Table String String) (text : String) : String :=
  let value (body : List Char) : List Char :=
    match vars.find? (String.ofList (Text.trim body)) with
    | some v => v.toList
    | none =>
      let d := Delimiters.substitution
      d.opening.chars ++ body ++ d.closing.chars
  String.ofList (Id.run (Delimiters.substitution.replace false (fun body _ => pure (value body))
    text.toList))

/-- What templates are built with: variables, and fragments by their ids. -/
structure Library where
  vars : Table String String
  fragments : Table String (List Element)

namespace Library

/-- No variables and no fragments. -/
def empty : Library := ⟨[], []⟩

def addFragment (l : Library) (id : String) (body : List Element) : Library :=
  { l with fragments := l.fragments.insert id body }

def hasFragment (l : Library) (id : String) : Bool := l.fragments.contains id

end Library

/-- The variables that hold at a place, and the fragments that the place is in, the innermost first. -/
structure BuildScope where
  vars : Table String String
  includes : List String

namespace Element

/-- A result of building. -/
abbrev Build (α : Type) := Except TemplateError α

/-- An attribute with the variables put in. -/
def attrIn? (scope : BuildScope) (e : Element) (name : String) : Option String :=
  (e.attr? name).map (substitute scope.vars)

/-- An attribute that must be there, with the variables put in. -/
def requiredAttr (scope : BuildScope) (e : Element) (name : String) : Build String :=
  match e.attrIn? scope name with
  | some v => .ok v
  | none => .error (.missingAttribute (e.tag?.getD "") name)

/-- The variables that hold in an included fragment: those of the place, and the properties given
with the include. -/
def includedVariables (scope : BuildScope) (children : List Element) : Build (Table String String) :=
  children.foldlM (fun vars child =>
    if child.tag? = some "property" then do
      let name ← child.requiredAttr scope "name"
      let value ← child.requiredAttr scope "value"
      return vars.insert name value
    else return vars) scope.vars

section Elements

/- How the body of an included fragment is built. -/
variable (library : Library) (expand : BuildScope → List Element → Build Node)

def includeAt (scope : BuildScope) (e : Element) : Build Node := do
  let id ← e.requiredAttr scope "refid"
  if id ∈ scope.includes then throw (.circularInclude id)
  else match library.fragments.find? id with
    | none => throw (.unknownFragment id)
    | some body =>
      let vars ← includedVariables scope e.children
      expand ⟨vars, id :: scope.includes⟩ body

mutual
def buildElement (scope : BuildScope) : Element → Build Node
  | text s => return .text (substitute scope.vars s)
  | element tag attrs children =>
    let e := element tag attrs children
    match tag with
    | "if" | "when" => do
      let test ← e.requiredAttr scope "test"
      Node.ifTest test (← buildBody scope children)
    | "choose" => do
      let (whens, otherwise) ← buildBranches scope children
      Node.chooseOne whens otherwise
    | "foreach" => do
      let collection ← e.requiredAttr scope "collection"
      let body ← buildBody scope children
      let part (name : String) := (e.attrIn? scope name).getD ""
      Node.forEach collection (e.attrIn? scope "item") (e.attrIn? scope "index")
        (part "open") (part "close") (part "separator") body
    | "trim" => do
      let body ← buildBody scope children
      let part (name : String) := e.attrIn? scope name
      return .clause (Clause.ofLists (part "prefix") (part "prefixOverrides") (part "suffix")
        (part "suffixOverrides")) body
    | "where" => return .clause Clause.conditions (← buildBody scope children)
    | "set" => return .clause Clause.assignments (← buildBody scope children)
    | "bind" => do
      let name ← e.requiredAttr scope "name"
      let value ← e.requiredAttr scope "value"
      Node.bindTo name value
    | "include" => includeAt library expand scope e
    -- a default part that stands outside a choice is always rendered
    | "otherwise" => buildBody scope children
    | tag => throw (.unknownElement tag)

def buildBody (scope : BuildScope) (body : List Element) : Build Node := do
  return .composite (← buildAll scope body)

def buildAll (scope : BuildScope) : List Element → Build (List Node)
  | [] => return []
  | e :: rest => do
    let n ← buildElement scope e
    return n :: (← buildAll scope rest)

/-- Builds the parts of a choice: those with a test, and the default parts. Text and other
elements between them are ignored. -/
def buildBranches (scope : BuildScope) :
    List Element → Build (List (Formula × Node) × List Node)
  | [] => return ([], [])
  | text _ :: rest => buildBranches scope rest
  | element tag attrs children :: rest =>
    if tag = "when" ∨ tag = "if" then do
      let test ← (element tag attrs children).requiredAttr scope "test"
      let body ← buildBody scope children
      let formula ← Node.formula test
      let (whens, otherwise) ← buildBranches scope rest
      return ((formula, body) :: whens, otherwise)
    else if tag = "otherwise" then do
      let body ← buildBody scope children
      let (whens, otherwise) ← buildBranches scope rest
      return (whens, body :: otherwise)
    else buildBranches scope rest
end

end Elements

/-- Builds elements inside at most `depth` includes. -/
def buildWithin (library : Library) : Nat → BuildScope → List Element → Build Node
  | 0, scope, _ => throw (.circularInclude (scope.includes.head?.getD ""))
  | depth + 1, scope, body => buildBody library (buildWithin library depth) scope body

end Element

def Library.build (library : Library) (body : List Element) : Except TemplateError Node :=
  Element.buildWithin library (library.fragments.length + 1) ⟨library.vars, []⟩ body

end DynamicSql
