import DynamicSql.Expr.Eval
import DynamicSql.Expr.Parser

/-!
# Formulas

A formula is an expression together with the text it was written as, which messages show.
-/

namespace DynamicSql

/-- An expression and its text. -/
structure Formula where
  source : String
  expr : Expr

namespace Formula

def parse (source : String) : Except ExprError Formula := do return ⟨source, ← Expr.parse source⟩

def eval (f : Formula) (lookup : Expr.Lookup) : Except ExprError Value := f.expr.eval lookup

/-- Whether the value of a formula counts as true. -/
def evalTruth (f : Formula) (lookup : Expr.Lookup) : Except ExprError Bool :=
  (f.eval lookup).map Value.truth

def positions (items : List Value) : List (Value × Value) :=
  items.mapIdx fun i v => (.int (Int64.ofNat i), v)

/-- The value of a formula item by item, each with its index: its position in a sequence, or its key
in a map. -/
def evalItems (f : Formula) (lookup : Expr.Lookup) : Except ExprError (List (Value × Value)) := do
  match ← f.eval lookup with
  | .null => throw (.nullCollection f.source)
  | .list items | .set items => return positions items
  | .map entries => return entries.map fun (k, v) => (.string k, v)
  | .json (.array items) => return positions (Value.ofJsonItems items)
  | v => throw (.notIterable f.source v.typeName)

end Formula

/-- Formulas that have been read, by their texts. -/
structure FormulaCache where
  entries : Table String Formula

namespace FormulaCache

/-- No formula has been read. -/
def empty : FormulaCache := ⟨[]⟩

/-- The formula of a text, and the cache that holds it. Texts that are no formulas are not kept. -/
def getOrParse (cache : FormulaCache) (source : String) :
    Except ExprError Formula × FormulaCache :=
  match cache.entries.find? source with
  | some f => (.ok f, cache)
  | none =>
    match Formula.parse source with
    | .ok f => (.ok f, ⟨cache.entries.insert source f⟩)
    | .error e => (.error e, cache)

def size (cache : FormulaCache) : Nat := cache.entries.length

end FormulaCache

end DynamicSql
