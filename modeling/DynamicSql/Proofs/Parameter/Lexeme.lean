import DynamicSql.Proofs.Parameter.Bare
import DynamicSql.Proofs.Parameter.Part
import DynamicSql.Proofs.Template.Composed

/-!
# Resolving written text

A text of plain characters and placeholders of paths always resolves: there is a parameter for each
placeholder, in order, with the path as its property (`Resolver.resolve_textOf`).
-/

namespace DynamicSql

open Step BoundStatement

namespace Lexeme

/-- What a part of the text becomes if the property of a placeholder is all that is known of it. -/
def part (r : Resolver) : Lexeme → Part
  | char c => .sql [c]
  | placeholder body =>
    .parameter (.ofType (String.ofList body) (r.inferType (String.ofList body) none))

theorem parametersOf_map_part (r : Resolver) (ls : List Lexeme) :
    parametersOf (ls.map (part r)) = (bodies ls).map fun body =>
      .ofType (String.ofList body) (r.inferType (String.ofList body) none) := by
  induction ls with
  | nil => rfl
  | cons l ls ih =>
    cases l with
    | char c => exact ih
    | placeholder body => exact congrArg _ ih

end Lexeme

open Lexeme

theorem Resolver.resolve_textOf (r : Resolver) {ls : List Lexeme} (h : ∀ l ∈ ls, l.IsPlain) :
    r.resolve (String.ofList (textOf ls)) = .ok (ofParts (ls.map (Lexeme.part r))) := by
  refine resolve_eq_ok.2 ⟨ls.map (Lexeme.part r), ?_, rfl⟩
  rw [String.toList_ofList, pieces_textOf fun l hl => (h l hl).readable]
  refine mapM_eq_ok.2 ?_
  rw [List.forall₂_map_left_iff, List.forall₂_map_right_iff]
  refine List.forall₂_same.2 fun l hl => ?_
  cases h l hl with
  | char hc => rfl
  | path hs hrest =>
    rw [Lexeme.piece, Resolver.part, r.parameter_written hs hrest]
    rfl

end DynamicSql
