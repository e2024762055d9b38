import DynamicSql.Template.Delimited
import DynamicSql.Template.Frame
import DynamicSql.Template.Node

/-!
# Rendering templates

Rendering writes the text of a template for an argument. Placeholders stay in the text. In a loop
each item is bound to a variable of its own, and the placeholders of the body that name the item or
the index are pointed at the variables of the iteration.
-/

namespace DynamicSql

namespace Loop

/-- The variable of an alias in the iteration of this number. -/
def bindingName (name : String) (number : Nat) : String :=
  "__frch_" ++ name ++ "_" ++ Nat.repr number

/-- What follows `name` in a placeholder that begins with it; the name must end there, or before a
point, comma, colon, bracket or blank. -/
def afterAlias? (name : String) (body : List Char) : Option (List Char) :=
  let text := Text.trimStart body
  let word := name.toList
  if word.isPrefixOf text then
    match text.drop word.length with
    | [] => some []
    | c :: rest =>
      if c = '.' ∨ c = ',' ∨ c = ':' ∨ c = '[' ∨ Text.isBlank c then some (c :: rest) else none
  else none

/-- The inside of a placeholder with the alias it begins with, if any, replaced by the variable of
the iteration. -/
def retarget (aliases : List String) (number : Nat) (body : List Char) : List Char :=
  let renamed := aliases.findSome? fun name =>
    (afterAlias? name body).map fun rest => (bindingName name number).toList ++ rest
  renamed.getD body

/-- The placeholder around `body`, with closing delimiters inside it escaped. -/
def placeholderAround (body : List Char) : List Char :=
  let d := Delimiters.placeholder
  d.opening.chars ++ body.flatMap (fun c => if c = '\x7d' then ['\\', c] else [c]) ++
    d.closing.chars

/-- The body of an iteration with its placeholders pointed at the variables of the iteration. -/
def itemize (aliases : List String) (number : Nat) (text : List Char) : List Char :=
  Id.run (Delimiters.placeholder.replace true
    (fun body _ => pure (placeholderAround (retarget aliases number body))) text)

/-- The names that placeholders of the body may begin with: the item before the index. -/
def aliases (spec : Loop) : List String := spec.item.toList ++ spec.index.toList

/-- The scope of an iteration and the variables that it binds: the index first, then the item. -/
def names (spec : Loop) (index item : Value) : List (String × Value) :=
  (spec.index.toList.map (·, index)) ++ (spec.item.toList.map (·, item))

/-- Binds the variables of an iteration. -/
def bindNames (spec : Loop) (number : Nat) (index item : Value) : Rendering Unit :=
  modify fun f => (spec.names index item).foldl
    (fun f (name, v) => f.bind (bindingName name number) v) f

/-- Renders the body for each item and hands over the texts that are not blank. -/
def bodies (spec : Loop) (body : Rendering Bool) : List (Value × Value) → Rendering (List String)
  | [] => pure []
  | (index, item) :: rest => do
    let number ← modifyGet Frame.takeNumber
    spec.bindNames number index item
    let scope := Table.ofEntries (spec.names index item)
    let (_, text) ← Rendering.within scope (Rendering.capture body)
    let others ← bodies spec body rest
    if Text.allBlank text.toList then return others
    else return String.ofList (itemize spec.aliases number text.toList) :: others

end Loop

namespace Node

/-- Writes static text. -/
def write (s : String) : Rendering Unit := modify fun f => f.append s

def test (f : Formula) : Rendering Bool := Rendering.calculate (.evaluation f.source) f.evalTruth

mutual
/-- Renders a template. The result tells whether anything was selected: a conditional part tells
whether its test holds, a choice whether a part was taken, and a clause what its body tells. -/
def render : Node → Rendering Bool
  | text s => do
    write s
    return true
  | conditional cond body => do
    if ← test cond then
      discard (render body)
      return true
    else return false
  | choose whens none => renderFirst whens
  | choose whens (some otherwise) => do
    if ← renderFirst whens then return true
    else
      discard (render otherwise)
      return true
  | loop spec body => do
    let items ← Rendering.calculate (.collection spec.collection.source) spec.collection.evalItems
    let texts ← spec.bodies (render body) items
    if texts.isEmpty then return true
    else
      write (spec.opening ++ spec.separator.intercalate texts ++ spec.closing)
      return true
  | clause spec body => do
    let (selected, inner) ← Rendering.capture (render body)
    write (String.ofList (spec.apply inner.toList))
    return selected
  | bind name value => do
    let v ← Rendering.calculate (.evaluation value.source) value.eval
    modify fun f => f.bind name v
    return true
  | composite children => do
    renderAll children
    return true

/-- Renders the first part whose test holds, and tells whether there is one. -/
def renderFirst : List (Formula × Node) → Rendering Bool
  | [] => return false
  | (cond, body) :: rest => do
    if ← test cond then
      discard (render body)
      return true
    else renderFirst rest

/-- Renders templates one after the other. -/
def renderAll : List Node → Rendering Unit
  | [] => return ()
  | n :: rest => do
    discard (render n)
    renderAll rest
end

end Node

/-- A rendered template: its text, and the variables bound on the way. -/
structure Rendered where
  sql : String
  bindings : Table String Value

def Node.renderFor (n : Node) (argument : Value) (databaseId : Option String) :
    Except TemplateError Rendered :=
  match n.render (Frame.start argument databaseId) with
  | .ok _ f => .ok ⟨f.text, f.bindings⟩
  | .error e _ => .error e

end DynamicSql
