import DynamicSql.Expr.Error
import DynamicSql.Expr.Token

/-!
# Reading expressions

Operators bind in the order of their levels, those of one level from left to right; operators before
an operand bind tighter, and properties, indexes and calls tighter still. Words that name operators
or literals are no names.
-/

namespace DynamicSql.Expr

open Token

/-- Words that are no names. -/
def keywords : List String :=
  ["and", "or", "not", "neq", "eq", "lte", "lt", "gte", "gt", "null", "true", "false"]

/-- The operator between two operands that a piece stands for. -/
def binaryOp? : Token → Option BinaryOp
  | word w => BinaryOp.all.find? fun op => op.word? == some w
  | symbol s => BinaryOp.all.find? fun op => op.symbol == s
  | _ => none

/-- The operator before an operand that a piece stands for. -/
def unaryOp? : Token → Option UnaryOp
  | word w => if w = "not" then some .not else none
  | symbol s => if s = "!" then some .not else if s = "-" then some .negate else none
  | _ => none

/-- The value of a number: a 64-bit number if it fits and has no point, otherwise a decimal. -/
def numberValue (whole : List Char) (fraction : Option (List Char)) : Value :=
  match fraction with
  | none =>
    let n := (Number.digits? whole).getD 0
    match Number.int64? n with
    | some k => .int k
    | none => .decimal (.ofInt n)
  | some places => .decimal ⟨(Number.digits? (whole ++ places)).getD 0, places.length⟩

/-- The literal that a piece stands for. -/
def literal? : Token → Option Value
  | word "null" => some .null
  | word "true" => some (.boolean true)
  | word "false" => some (.boolean false)
  | number whole fraction => some (numberValue whole fraction)
  | string s => some (.string s)
  | _ => none

/-- The name that a piece stands for. -/
def name? : Token → Option String
  | word w => if w ∈ keywords then none else some w
  | _ => none

/-- An expression and the pieces behind it. -/
abbrev Step := Option (Expr × List Token)

mutual
/-- Reads operands joined by operators of levels below `level`. -/
def readLevel : Nat → Nat → List Token → Step
  | 0, _, _ => none
  | fuel + 1, 0, ts => readUnary fuel ts
  | fuel + 1, level + 1, ts => do
    let (left, ts) ← readLevel fuel level ts
    readRest fuel level left ts

/-- Continues behind `left` with operators of level `level`. -/
def readRest : Nat → Nat → Expr → List Token → Step
  | 0, _, _, _ => none
  | _ + 1, _, left, [] => some (left, [])
  | fuel + 1, level, left, t :: ts =>
    match binaryOp? t with
    | some op =>
      if op.level = level then do
        let (right, ts) ← readLevel fuel level ts
        readRest fuel level (.binary op left right) ts
      else some (left, t :: ts)
    | none => some (left, t :: ts)

/-- Reads an operand with the operators before it. -/
def readUnary : Nat → List Token → Step
  | 0, _ => none
  | _ + 1, [] => none
  | fuel + 1, t :: ts =>
    match unaryOp? t with
    | some op => do
      let (operand, ts) ← readUnary fuel ts
      return (.unary op operand, ts)
    | none => do
      let (primary, ts) ← readPrimary fuel (t :: ts)
      readAccess fuel primary ts

/-- Reads a literal, a name, or an expression in parentheses. -/
def readPrimary : Nat → List Token → Step
  | 0, _ => none
  | _ + 1, [] => none
  | fuel + 1, t :: ts =>
    match literal? t with
    | some v => some (.literal v, ts)
    | none =>
      if t = symbol "(" then do
        let (e, ts) ← readLevel fuel 6 ts
        match ts with
        | symbol ")" :: ts => some (e, ts)
        | _ => none
      else (name? t).map fun n => (.name n, ts)

/-- Continues behind `target` with properties, indexes and calls. -/
def readAccess : Nat → Expr → List Token → Step
  | 0, _, _ => none
  | fuel + 1, target, symbol "." :: t :: ts => do
    let n ← name? t
    match ts with
    | symbol "(" :: symbol ")" :: ts => readAccess fuel (.call target n []) ts
    | symbol "(" :: ts =>
      let (args, ts) ← readArgs fuel ts
      readAccess fuel (.call target n args) ts
    | ts => readAccess fuel (.property target n) ts
  | _ + 1, _, [symbol "."] => none
  | fuel + 1, target, symbol "[" :: ts => do
    let (key, ts) ← readLevel fuel 6 ts
    match ts with
    | symbol "]" :: ts => readAccess fuel (.index target key) ts
    | _ => none
  | _ + 1, target, ts => some (target, ts)

/-- Reads the arguments of a call up to the closing parenthesis. -/
def readArgs : Nat → List Token → Option (List Expr × List Token)
  | 0, _ => none
  | fuel + 1, ts => do
    let (arg, ts) ← readLevel fuel 6 ts
    match ts with
    | symbol "," :: ts =>
      let (args, ts) ← readArgs fuel ts
      return (arg :: args, ts)
    | symbol ")" :: ts => return ([arg], ts)
    | _ => none
end

/-- More steps than reading this many pieces can take. -/
def fuelFor (pieces : Nat) : Nat := 10 * (pieces + 1)

/-- The expression that the pieces make up. -/
def ofTokens? (ts : List Token) : Option Expr :=
  match readLevel (fuelFor ts.length) 6 ts with
  | some (e, []) => some e
  | _ => none

/-- The expression of a text, none if it has the form of none. -/
def read? (s : List Char) : Option Expr := do ofTokens? (← scan? s)

def parse (text : String) : Except ExprError Expr :=
  match read? text.toList with
  | some e => .ok e
  | none => .error (.syntaxError text "unexpected input")

end DynamicSql.Expr
