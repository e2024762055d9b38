import DynamicSql.Expr.Eval
import DynamicSql.Template.Error

/-!
# Rendering frames

While a template is rendered, a frame holds the argument, the variables bound so far, the scopes of
the loops around the current place, the text written so far, and the next loop number. A name stands
for what the innermost scope that has it says, else for a variable, else for a property of the
argument.

Steps on a frame keep it also when they fail: what was bound and counted until then stays.
-/

namespace DynamicSql

/-- The state of rendering. Scopes are listed from the innermost. -/
structure Frame where
  argument : Value
  bindings : Table String Value
  scopes : List (Table String Value)
  text : String
  nextNumber : Nat

/-- A step of rendering. -/
abbrev Rendering := EStateM TemplateError Frame

namespace Frame

/-- The variable that holds the argument. -/
def argumentKey : String := "_parameter"

/-- The variable that holds the database id, or null. -/
def databaseIdKey : String := "_databaseId"

/-- The frame in which the rendering for an argument begins. -/
def start (argument : Value) (databaseId : Option String) : Frame where
  argument
  bindings := Table.ofEntries
    [(argumentKey, argument), (databaseIdKey, (databaseId.map Value.string).getD .null)]
  scopes := []
  text := ""
  nextNumber := 0

/-- What a name stands for as a property of the argument. Everything is null in a null argument, and
a single value goes by any name. -/
def argumentProperty (argument : Value) (name : String) : Except ExprError Value :=
  match argument with
  | .null => .ok .null
  | .map _ | .record .. => (argument.property name).mapError .property
  | .json (.object fields) => .ok (((Json.field? fields name).map Value.ofJson).getD .null)
  | v => if v.dataType.isScalar then .ok v else .error (.unresolvedName name)

/-- What a name stands for. -/
def lookup (f : Frame) : Expr.Lookup := fun name =>
  match f.scopes.findSome? (·.find? name) with
  | some v => .ok v
  | none => match f.bindings.find? name with
    | some v => .ok v
    | none => argumentProperty f.argument name

/-- Binds a variable; loop scopes are not touched. -/
def bind (f : Frame) (name : String) (v : Value) : Frame :=
  { f with bindings := f.bindings.insert name v }

/-- Writes at the end of the text. -/
def append (f : Frame) (s : String) : Frame := { f with text := f.text ++ s }

/-- The next loop number, and the frame that has used it. -/
def takeNumber (f : Frame) : Nat × Frame := (f.nextNumber, { f with nextNumber := f.nextNumber + 1 })

end Frame

namespace Rendering

/-- Runs a step on an empty text; its text is handed over and not written. -/
def capture {α : Type} (step : Rendering α) : Rendering (α × String) := fun f =>
  match step { f with text := "" } with
  | .ok a f' => .ok (a, f'.text) { f' with text := f.text }
  | .error e f' => .error e { f' with text := f.text }

/-- Runs a step inside one more scope. -/
def within {α : Type} (scope : Table String Value) (step : Rendering α) : Rendering α := fun f =>
  match step { f with scopes := scope :: f.scopes } with
  | .ok a f' => .ok a { f' with scopes := f.scopes }
  | .error e f' => .error e { f' with scopes := f.scopes }

/-- Hands over the result of a calculation on the names of the frame, or fails with what the error
means for a template. -/
def calculate {α : Type} (fault : ExprError → TemplateError)
    (calculation : Expr.Lookup → Except ExprError α) : Rendering α := fun f =>
  match calculation f.lookup with
  | .ok a => .ok a f
  | .error e => .error (fault e) f

end Rendering

end DynamicSql
