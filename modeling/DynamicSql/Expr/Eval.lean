import DynamicSql.Expr.Method
import DynamicSql.Expr.Operator
import DynamicSql.Path.Navigate

/-!
# Evaluating expressions

An expression has a value once the names it looks up have values. Operands are evaluated from left to
right, and the right operand of a logical operator only where the left one does not decide.
-/

namespace DynamicSql.Expr

/-- What the names of an expression stand for. -/
abbrev Lookup := String → Except ExprError Value

def Lookup.ofTable (entries : Table String Value) : Lookup := fun name =>
  match entries.find? name with
  | some v => .ok v
  | none => .error (.unresolvedName name)

/-- Names stand for the properties of a value. -/
def Lookup.ofValue (v : Value) : Lookup := fun name => (v.property name).mapError .property

/-- The part of a document under a field name or a position, null if there is none. -/
def documentPart (j : Json) (key : String) : Value :=
  let part? := match j with
    | .object fields => Json.field? fields key
    | .array items => (Number.readNat? key.toList).bind fun i => items[i]?
    | _ => none
  (part?.map Value.ofJson).getD .null

def navigate (v : Value) (key : String) : Except ExprError Value :=
  match v with
  | .null => .error (.nullTarget key)
  | .json j => .ok (documentPart j key)
  | v => (v.property key).mapError .property

mutual
def eval (lookup : Lookup) : Expr → Except ExprError Value
  | literal v => .ok v
  | name n => lookup n
  | property target n => do navigate (← eval lookup target) n
  | index target key => do
    let v ← eval lookup target
    let k ← eval lookup key
    navigate v k.plainText
  | call target method args => do
    let receiver ← eval lookup target
    if receiver.isNull then throw (.nullTarget (method ++ "()"))
    else
      let args ← evalArgs lookup args
      Method.callByName method receiver args
  | unary op operand => do applyUnary op (← eval lookup operand)
  | binary op left right => do
    let l ← eval lookup left
    if op = .and ∧ l.truth = false then return .boolean false
    else if op = .or ∧ l.truth = true then return .boolean true
    else
      let r ← eval lookup right
      applyBinary op l r

def evalArgs (lookup : Lookup) : List Expr → Except ExprError (List Value)
  | [] => .ok []
  | e :: rest => do
    let v ← eval lookup e
    let vs ← evalArgs lookup rest
    return v :: vs
end

end DynamicSql.Expr
