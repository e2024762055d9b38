import DynamicSql.Expr.Formula
import DynamicSql.Template.Clause
import DynamicSql.Template.Error

/-!
# Templates

A template is a tree of static text, conditional parts, loops, clauses and variables.
-/

namespace DynamicSql

/-- What a loop goes through, the names of its item and index, and what it writes around and between
the bodies. -/
structure Loop where
  collection : Formula
  item : Option String
  index : Option String
  opening : String
  closing : String
  separator : String

/-- A template. -/
inductive Node where
  | text (s : String)
  | conditional (test : Formula) (body : Node)
  | choose (whens : List (Formula × Node)) (otherwise : Option Node)
  | loop (spec : Loop) (body : Node)
  | clause (spec : Clause) (body : Node)
  | bind (name : String) (value : Formula)
  | composite (children : List Node)

namespace Node

/-- Induction over templates, with what is known of the parts of a choice and of the children of a
template given for each of them. -/
@[induction_eliminator]
theorem induct {motive : Node → Prop} (text : ∀ s, motive (text s))
    (conditional : ∀ test body, motive body → motive (conditional test body))
    (choose : ∀ whens otherwise, (∀ w ∈ whens, motive w.2) → (∀ n ∈ otherwise, motive n) →
      motive (choose whens otherwise))
    (loop : ∀ spec body, motive body → motive (loop spec body))
    (clause : ∀ spec body, motive body → motive (clause spec body))
    (bind : ∀ name value, motive (bind name value))
    (composite : ∀ children, (∀ n ∈ children, motive n) → motive (composite children)) :
    ∀ n, motive n :=
  @Node.rec motive (fun whens => ∀ w ∈ whens, motive w.2) (fun otherwise => ∀ n ∈ otherwise, motive n)
    (fun children => ∀ n ∈ children, motive n) (fun w => motive w.2)
    text conditional choose loop clause bind composite
    nofun (fun _ _ hw hwhens => List.forall_mem_cons.2 ⟨hw, hwhens⟩)
    nofun (fun n hn m hm => by obtain rfl := Option.some.inj hm; exact hn)
    nofun (fun _ _ hn hchildren => List.forall_mem_cons.2 ⟨hn, hchildren⟩)
    (fun _ _ h => h)

mutual
/-- Whether the text of the template can depend on the argument. -/
def isDynamic : Node → Bool
  | text _ => false
  | composite children => anyDynamic children
  | _ => true

def anyDynamic : List Node → Bool
  | [] => false
  | n :: rest => isDynamic n || anyDynamic rest
end

def formula (source : String) : Except TemplateError Formula :=
  (Formula.parse source).mapError (.invalidExpression source)

/-- A part that is rendered if the test holds. -/
def ifTest (test : String) (body : Node) : Except TemplateError Node := do
  return conditional (← formula test) body

/-- The first of several parts whose test holds, and at most one part for when none does. -/
def chooseOne (whens : List (Formula × Node)) (otherwise : List Node) :
    Except TemplateError Node :=
  match otherwise with
  | [] => .ok (choose whens none)
  | [n] => .ok (choose whens (some n))
  | _ => .error .multipleOtherwise

def forEach (collection : String) (item index : Option String)
    (opening closing separator : String) (body : Node) : Except TemplateError Node := do
  return loop ⟨← formula collection, item, index, opening, closing, separator⟩ body

/-- A variable with the value of a formula. -/
def bindTo (name value : String) : Except TemplateError Node := do
  return bind name (← formula value)

end Node

end DynamicSql
