import DynamicSql.Text.Blank
import DynamicSql.Text.Case

/-!
# Optional clauses

A clause such as `WHERE …` or `SET …` is written only if its body is not blank. One dangling word at
either end of the body, such as a leading `AND` or a trailing comma, is dropped.
-/

namespace DynamicSql

/-- What is written around a body, and the words that are dropped at its ends. -/
structure Clause where
  lead : Option String
  trail : Option String
  dropLead : List String
  dropTrail : List String
  deriving DecidableEq

namespace Clause

open Text

/-- The words of a list separated by strokes; blanks belong to the words. -/
def words (list : Option String) : List String :=
  match list with
  | none => []
  | some s => ((s.splitOn "|").filter (!·.isEmpty))

/-- A clause with the words to drop given as lists separated by strokes. -/
def ofLists (lead dropLead trail dropTrail : Option String) : Clause :=
  ⟨lead, trail, words dropLead, words dropTrail⟩

/-- The clause of conditions joined by `AND` or `OR`. -/
def conditions : Clause :=
  ofLists (some "WHERE") (some "AND |OR |AND\n|OR\n|AND\r|OR\r|AND\t|OR\t") none none

/-- The clause of assignments separated by commas. -/
def assignments : Clause := ofLists (some "SET") none none (some ",")

/-- What follows `word` at the head of the text, if it stands there in any ASCII case. -/
def stripHead? : List Char → List Char → Option (List Char)
  | [], s => some s
  | _ :: _, [] => none
  | w :: word, c :: s => if eqIgnoreAsciiCase w c then stripHead? word s else none

/-- What comes before `word` at the end of the text, if it stands there in any ASCII case. -/
def stripEnd? (word s : List Char) : Option (List Char) :=
  (stripHead? word.reverse s.reverse).map List.reverse

/-- The body without blanks in front and without the first of the words that leads it. -/
def withoutLead (c : Clause) (body : List Char) : List Char :=
  let text := trimStart body
  match c.dropLead.findSome? fun word => stripHead? word.toList text with
  | some rest => trimStart rest
  | none => text

/-- The body without the first of the words that ends it. -/
def withoutTrail (c : Clause) (core : List Char) : List Char :=
  let stripped := c.dropTrail.findSome? fun word =>
    let word := trim word.toList
    if word.isEmpty then none else stripEnd? word core
  stripped.getD core

/-- The clause around a body; the blanks at the end of the body come last. -/
def apply (c : Clause) (body : List Char) : List Char :=
  let text := c.withoutLead body
  let trailing := takeEndWhile isBlank text
  let core := c.withoutTrail (dropEndWhile isBlank text)
  if allBlank body || allBlank core then []
  else
    (c.lead.map fun s => s.toList ++ [' ']).getD [] ++ core ++
      (c.trail.map fun s => ' ' :: s.toList).getD [] ++ trailing

end Clause

end DynamicSql
