import DynamicSql.Dialect
import DynamicSql.Parameter.Basic

/-!
# Bound statements

The text of a statement in which markers have taken the place of placeholders, the parameters that
the markers stand for, and the variables bound while the statement was rendered. The offsets of the
markers are kept, so that the place of a parameter is never mistaken for a question mark of the text
itself.
-/

namespace DynamicSql

/-- A statement: its text, the offsets of the markers in it, the parameters that they stand for, and
its variables. -/
structure BoundStatement where
  text : List Char
  markers : List Nat
  parameters : List Parameter
  bindings : Table String Value

namespace BoundStatement

/-- What stands in the text for a parameter. -/
def marker : Char := '?'

/-- The statement without text. -/
def empty : BoundStatement := ⟨[], [], [], []⟩

/-- The text of the statement, with a marker for each parameter. -/
def sql (b : BoundStatement) : String := String.ofList b.text

/-- A text that begins at an offset, with the places of a dialect for the markers at these offsets;
`index` parameters come before them. -/
def numbered (d : Dialect) (index offset : Nat) : List Nat → List Char → List Char
  | [], text => text
  | m :: rest, text =>
    let (before, after) := Text.splitOffset (m - offset) text
    let (_, after) := Text.splitOffset marker.utf8Size after
    before ++ (d.placeholder index).toList ++
      numbered d (index + 1) (m + marker.utf8Size) rest after

def sqlFor (b : BoundStatement) (d : Dialect) : String :=
  String.ofList (numbered d 0 0 b.markers b.text)

/-- Writes text at the end. -/
def pushSql (b : BoundStatement) (text : String) : BoundStatement :=
  { b with text := b.text ++ text.toList }

/-- Writes a marker at the end, and the parameter that it stands for. -/
def pushParameter (b : BoundStatement) (p : Parameter) : BoundStatement :=
  { b with
    text := b.text ++ [marker]
    markers := b.markers ++ [Text.utf8Length b.text]
    parameters := b.parameters ++ [p] }

def bindValue (b : BoundStatement) (name : String) (v : Value) : BoundStatement :=
  { b with bindings := b.bindings.insert name v }

def withBindings (b : BoundStatement) (bindings : Table String Value) : BoundStatement :=
  { b with bindings }

def hasBinding (b : BoundStatement) (name : String) : Bool := b.bindings.contains name

/-- Refuses a statement that has not as many markers as parameters. -/
def validate (b : BoundStatement) : Except BindError Unit :=
  if b.markers.length = b.parameters.length then .ok ()
  else .error (.markerMismatch b.markers.length b.parameters.length)

end BoundStatement

end DynamicSql
