import DynamicSql.Proofs.Parameter.Part
import DynamicSql.Proofs.Step
import DynamicSql.Proofs.Template.Independence

/-!
# No value of an argument reaches the text

Renderings of a template that decide alike write the same text and bind the same names. What resolving
makes of that text has its markers in the same places whatever the types and variables are that the
placeholders are resolved with (`Resolver.resolve_alike`). So the arguments shape the statement by
their decisions alone (`Node.sql_eq_of_decisions_eq`).
-/

namespace DynamicSql

open Step

open BoundStatement

namespace Resolver

/-- What a piece of a text contributes to the statement. -/
def pieceLayout : Piece → Option (List Char)
  | .plain text => some text
  | .token _ => none

theorem layout_of_part {r : Resolver} {piece : Piece} {part : Part} (h : r.part piece = .ok part) :
    part.layout = pieceLayout piece := by
  cases piece with
  | plain text =>
    cases h
    rfl
  | token body =>
    obtain ⟨p, -, rfl⟩ := except_map_eq_ok.1 h
    rfl

theorem map_layout_eq {r : Resolver} {pieces : List Piece} {parts : List Part}
    (h : pieces.mapM r.part = .ok parts) : parts.map Part.layout = pieces.map pieceLayout := by
  have hparts := mapM_eq_ok.1 h
  induction hparts with
  | nil => rfl
  | cons hpart _ ih => rw [List.map_cons, List.map_cons, layout_of_part hpart, ih (mapM_eq_ok.2 ‹_›)]

/-- Statements that different resolvers make of one text differ in their parameters only. -/
theorem resolve_alike {r₁ r₂ : Resolver} {sql : String} {b₁ b₂ : BoundStatement}
    (h₁ : r₁.resolve sql = .ok b₁) (h₂ : r₂.resolve sql = .ok b₂) :
    b₁.text = b₂.text ∧ b₁.markers = b₂.markers := by
  obtain ⟨parts₁, hparts₁, rfl⟩ := resolve_eq_ok.1 h₁
  obtain ⟨parts₂, hparts₂, rfl⟩ := resolve_eq_ok.1 h₂
  have hlayout : parts₁.map Part.layout = parts₂.map Part.layout := by
    rw [map_layout_eq hparts₁, map_layout_eq hparts₂]
  exact ⟨textOf_congr hlayout, offsetsFrom_congr hlayout 0⟩

end Resolver

namespace Node

/-- Two arguments by whose values rendering decides alike give the same text and variables of the same
names, and whatever the two texts are resolved with, the statements have the same text, the same
markers, and the same text in every dialect. -/
theorem sql_eq_of_decisions_eq {n : Node} {argument₁ argument₂ : Value} {databaseId : Option String}
    {o₁ o₂ : Rendered} (h₁ : n.renderFor argument₁ databaseId = .ok o₁)
    (h₂ : n.renderFor argument₂ databaseId = .ok o₂)
    (hdecisions : n.decisions (.start argument₁ databaseId) = n.decisions (.start argument₂ databaseId)) :
    o₁.sql = o₂.sql ∧ o₁.bindings.keys = o₂.bindings.keys ∧
      ∀ {r₁ r₂ : Resolver} {b₁ b₂ : BoundStatement},
        r₁.resolve o₁.sql = .ok b₁ → r₂.resolve o₂.sql = .ok b₂ →
          b₁.sql = b₂.sql ∧ b₁.markers = b₂.markers ∧ ∀ d, b₁.sqlFor d = b₂.sqlFor d := by
  obtain ⟨a₁, g₁, hrender₁, rfl⟩ := renderFor_eq_ok.1 h₁
  obtain ⟨a₂, g₂, hrender₂, rfl⟩ := renderFor_eq_ok.1 h₂
  have hrest : n.decisions (.start argument₁ databaseId) ++ [] =
      n.decisions (.start argument₂ databaseId) ++ [] := by rw [hdecisions]
  obtain ⟨-, hg, -⟩ :=
    n.render_decidedBy (.start argument₁ argument₂ databaseId) hrender₁ hrender₂ hrest
  refine ⟨hg.text, hg.names, fun {r₁ r₂ b₁ b₂} hb₁ hb₂ => ?_⟩
  dsimp only at hb₁ hb₂
  rw [← hg.text] at hb₂
  obtain ⟨htext, hmarkers⟩ := Resolver.resolve_alike hb₁ hb₂
  exact ⟨by rw [BoundStatement.sql, BoundStatement.sql, htext], hmarkers,
    fun d => by rw [sqlFor, sqlFor, htext, hmarkers]⟩

/-- A query for a name, if there is one, and for one of several ids. -/
def byNameAndIds : Node :=
  composite [
    text "select * from users where ",
    conditional ⟨"name != null", .binary .notEqual (.name "name") (.literal .null)⟩
      (text "name = #\x7bname\x7d and "),
    loop ⟨⟨"ids", .name "ids"⟩, some "id", none, "id in (", ")", ", "⟩ (text "#\x7bid\x7d")]

/-- An argument of harmless values. -/
def harmless : Value := .map [("ids", .list [.int 1]), ("name", .string "a")]

/-- An argument whose values read as placeholders, markers and SQL. -/
def hostile : Value :=
  .map [("ids", .list [.string "\x7d ? #\x7b"]), ("name", .string "#\x7bname\x7d' or 1 = 1 -- \\")]

theorem sql_byNameAndIds_eq :
    ∃ o₁ o₂, byNameAndIds.renderFor harmless none = .ok o₁ ∧
      byNameAndIds.renderFor hostile none = .ok o₂ ∧
      byNameAndIds.decisions (.start harmless none) = byNameAndIds.decisions (.start hostile none) ∧
      o₁.sql = o₂.sql ∧ o₁.bindings.keys = o₂.bindings.keys ∧
      ∀ {r₁ r₂ : Resolver} {b₁ b₂ : BoundStatement},
        r₁.resolve o₁.sql = .ok b₁ → r₂.resolve o₂.sql = .ok b₂ →
          b₁.sql = b₂.sql ∧ b₁.markers = b₂.markers ∧ ∀ d, b₁.sqlFor d = b₂.sqlFor d := by
  obtain ⟨o₁, h₁⟩ : ∃ o, byNameAndIds.renderFor harmless none = .ok o := ⟨_, rfl⟩
  obtain ⟨o₂, h₂⟩ : ∃ o, byNameAndIds.renderFor hostile none = .ok o := ⟨_, rfl⟩
  have hharmless : byNameAndIds.decisions (.start harmless none) = [.test true, .count 1] := rfl
  have hhostile : byNameAndIds.decisions (.start hostile none) = [.test true, .count 1] := rfl
  have hdecisions := hharmless.trans hhostile.symm
  exact ⟨o₁, o₂, h₁, h₂, hdecisions, sql_eq_of_decisions_eq h₁ h₂ hdecisions⟩

end Node

end DynamicSql
