import DynamicSql.Expr.Error
import DynamicSql.Value.Order
import DynamicSql.Value.Text

/-!
# Methods of values

The methods that an expression may call, by name in any case.
-/

namespace DynamicSql.Expr

/-- A method. -/
inductive Method where
  | size
  | isEmpty
  | contains
  | containsKey
  | length
  | trim
  | toUpperCase
  | toLowerCase
  | startsWith
  | endsWith
  deriving DecidableEq

namespace Method

def name : Method → String
  | size => "size"
  | isEmpty => "isEmpty"
  | contains => "contains"
  | containsKey => "containsKey"
  | length => "length"
  | trim => "trim"
  | toUpperCase => "toUpperCase"
  | toLowerCase => "toLowerCase"
  | startsWith => "startsWith"
  | endsWith => "endsWith"

def all : List Method :=
  [size, isEmpty, contains, containsKey, length, trim, toUpperCase, toLowerCase, startsWith,
    endsWith]

/-- The method of this name, in any case. -/
def ofName? (s : String) : Option Method :=
  let key := Text.lowercase s
  all.find? fun m => Text.lowercase m.name == key

/-- The result of a call. -/
abbrev Result (α : Type) := Except ExprError α

/-- Refuses other than `count` arguments. -/
def expectArgs (m : Method) (args : List Value) (count : Nat) : Result Unit :=
  if args.length = count then .ok ()
  else .error (.invalidArguments m.name s!"Expected {count} argument(s), got {args.length}")

def notApplicable (m : Method) (receiver : Value) : ExprError :=
  .invalidArguments m.name s!"Not applicable to {receiver.typeName}"

def receiverText (m : Method) (receiver : Value) : Result String :=
  match receiver with
  | .string s => .ok s
  | v => .error (notApplicable m v)

def onlyArg (m : Method) (args : List Value) : Result Value :=
  match args with
  | [v] => .ok v
  | _ => do
    expectArgs m args 1
    throw (.invalidArguments m.name "")

/-- The only argument, which must be a string. -/
def textArg (m : Method) (args : List Value) : Result String := do
  match ← onlyArg m args with
  | .string s => return s
  | v => throw (.invalidArguments m.name s!"Expected string, got {v.typeName}")

/-- Whether the characters of `needle` stand in `s` one behind the other. -/
def hasInfix (needle : List Char) : List Char → Bool
  | [] => needle.isEmpty
  | c :: rest => needle.isPrefixOf (c :: rest) || hasInfix needle rest

def receiverSize (m : Method) (receiver : Value) : Result Nat :=
  match receiver.size? with
  | some n => .ok n
  | none => .error (notApplicable m receiver)

def count (n : Nat) : Value := .int (Int64.ofNat n)

def call (m : Method) (receiver : Value) (args : List Value) : Result Value :=
  match m with
  | size => do
    expectArgs m args 0
    return count (← receiverSize m receiver)
  | isEmpty => do
    expectArgs m args 0
    return .boolean ((← receiverSize m receiver) == 0)
  | contains => do
    let needle ← onlyArg m args
    match receiver with
    | .string s => return .boolean (hasInfix needle.plainText.toList s.toList)
    | .list items | .set items => return .boolean (items.any (·.looselyEqual needle))
    | v => throw (notApplicable m v)
  | containsKey => do
    let key := (← onlyArg m args).plainText
    match receiver with
    | .map entries => return .boolean (Table.contains entries key)
    | .record schema _ => return .boolean (schema.hasField key)
    | v => throw (notApplicable m v)
  | length => do
    expectArgs m args 0
    return count (← receiverText m receiver).length
  | trim => do
    expectArgs m args 0
    return .string (Text.trimmed (← receiverText m receiver))
  | toUpperCase => do
    expectArgs m args 0
    return .string (Text.uppercase (← receiverText m receiver))
  | toLowerCase => do
    expectArgs m args 0
    return .string (Text.lowercase (← receiverText m receiver))
  | startsWith => do
    let s ← receiverText m receiver
    let start ← textArg m args
    return .boolean (start.toList.isPrefixOf s.toList)
  | endsWith => do
    let s ← receiverText m receiver
    let ending ← textArg m args
    return .boolean (ending.toList.isSuffixOf s.toList)

def callByName (name : String) (receiver : Value) (args : List Value) : Result Value :=
  match ofName? name with
  | some m => m.call receiver args
  | none => .error (.unknownMethod name)

end Method

end DynamicSql.Expr
