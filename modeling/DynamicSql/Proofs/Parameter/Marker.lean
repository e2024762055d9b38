import DynamicSql.Proofs.Parameter.Bare
import DynamicSql.Proofs.Parameter.Inference
import DynamicSql.Proofs.Parameter.Part

/-!
# The places of parameters

A statement that comes of resolving a text, or of nothing, and is then extended step by step, is the
list of what was written into it (`Written`). So there is one marker for each parameter, the offsets
increase, and the text in a dialect differs from the text of the statement at the markers alone
(`reachable_wellMarked`).
-/

namespace DynamicSql

open Text

namespace BoundStatement

/-! ### The steps a statement goes through -/

/-- The statements that come of resolving a text, or of nothing, by any steps in any order. -/
inductive Reachable : BoundStatement → Prop
  | empty : Reachable .empty
  | resolve {r : Resolver} {sql : String} {b : BoundStatement} : r.resolve sql = .ok b → Reachable b
  | pushSql {b : BoundStatement} (text : String) : Reachable b → Reachable (b.pushSql text)
  | pushParameter {b : BoundStatement} (p : Parameter) : Reachable b → Reachable (b.pushParameter p)
  | bindValue {b : BoundStatement} (name : String) (v : Value) :
      Reachable b → Reachable (b.bindValue name v)
  | withBindings {b : BoundStatement} (bindings : Table String Value) :
      Reachable b → Reachable (b.withBindings bindings)

/-- What was written into a statement on the way: the pieces of the text that was resolved, each token
with the parameter it stands for, and then what was pushed. -/
inductive Written : List Part → BoundStatement → Prop
  | empty : Written [] .empty
  | resolve {r : Resolver} {sql : String} {b : BoundStatement} {parts : List Part} :
      r.resolve sql = .ok b →
      (Delimiters.placeholder.pieces false sql.toList).mapM r.part = .ok parts → Written parts b
  | pushSql {parts : List Part} {b : BoundStatement} (text : String) :
      Written parts b → Written (parts ++ [.sql text.toList]) (b.pushSql text)
  | pushParameter {parts : List Part} {b : BoundStatement} (p : Parameter) :
      Written parts b → Written (parts ++ [.parameter p]) (b.pushParameter p)
  | bindValue {parts : List Part} {b : BoundStatement} (name : String) (v : Value) :
      Written parts b → Written parts (b.bindValue name v)
  | withBindings {parts : List Part} {b : BoundStatement} (bindings : Table String Value) :
      Written parts b → Written parts (b.withBindings bindings)

theorem Reachable.exists_written {b : BoundStatement} (h : Reachable b) :
    ∃ parts, Written parts b := by
  induction h with
  | empty => exact ⟨[], .empty⟩
  | @resolve r sql b h =>
    have heq := r.resolve_eq sql
    rw [h] at heq
    cases hparts : (Delimiters.placeholder.pieces false sql.toList).mapM r.part with
    | error e => rw [hparts] at heq; cases heq
    | ok parts => exact ⟨parts, .resolve h hparts⟩
  | pushSql text _ ih => exact ih.imp' _ fun _ => .pushSql text
  | pushParameter p _ ih => exact ih.imp' _ fun _ => .pushParameter p
  | bindValue name v _ ih => exact ih.imp fun _ => .bindValue name v
  | withBindings bindings _ ih => exact ih.imp fun _ => .withBindings bindings

/-- The statement has the text, the markers and the parameters of the parts. -/
structure MadeOf (parts : List Part) (b : BoundStatement) : Prop where
  text : b.text = textOf parts
  markers : b.markers = offsetsFrom 0 parts
  parameters : b.parameters = parametersOf parts

theorem MadeOf.pushSql {parts : List Part} {b : BoundStatement} (h : MadeOf parts b) (text : String) :
    MadeOf (parts ++ [.sql text.toList]) (b.pushSql text) where
  text := by simp [BoundStatement.pushSql, h.text, textOf]
  markers := by simp [BoundStatement.pushSql, h.markers, offsetsFrom_append, offsetsFrom]
  parameters := by simp [BoundStatement.pushSql, h.parameters, parametersOf]

theorem MadeOf.pushParameter {parts : List Part} {b : BoundStatement} (h : MadeOf parts b)
    (p : Parameter) : MadeOf (parts ++ [.parameter p]) (b.pushParameter p) where
  text := by simp [BoundStatement.pushParameter, h.text, textOf]
  markers := by
    simp [BoundStatement.pushParameter, h.text, h.markers, offsetsFrom_append, offsetsFrom]
  parameters := by simp [BoundStatement.pushParameter, h.parameters, parametersOf]

theorem Written.madeOf {parts : List Part} {b : BoundStatement} (h : Written parts b) :
    MadeOf parts b := by
  induction h with
  | empty => exact ⟨rfl, rfl, rfl⟩
  | @resolve r sql b parts h hparts =>
    rw [r.resolve_eq sql, hparts] at h
    obtain rfl := Except.ok.inj h
    exact ⟨rfl, rfl, rfl⟩
  | pushSql text _ ih => exact ih.pushSql text
  | pushParameter p _ ih => exact ih.pushParameter p
  | bindValue _ _ _ ih => exact ⟨ih.text, ih.markers, ih.parameters⟩
  | withBindings _ _ ih => exact ⟨ih.text, ih.markers, ih.parameters⟩

theorem MadeOf.length_markers {parts : List Part} {b : BoundStatement} (h : MadeOf parts b) :
    b.markers.length = b.parameters.length := by
  rw [h.markers, h.parameters, length_offsetsFrom]

theorem MadeOf.sqlFor {parts : List Part} {b : BoundStatement} (h : MadeOf parts b) (d : Dialect) :
    b.sqlFor d = String.ofList (textIn d 0 parts) := by
  rw [BoundStatement.sqlFor, h.text, h.markers, numbered_offsetsFrom]

theorem MadeOf.exists_part {parts : List Part} {b : BoundStatement} (h : MadeOf parts b) {i : Nat}
    {p : Parameter} (hp : b.parameters[i]? = some p) :
    ∃ before after, parts = before ++ .parameter p :: after ∧ (parametersOf before).length = i ∧
      b.markers[i]? = some (utf8Length (textOf before)) := by
  rw [h.parameters] at hp
  obtain ⟨before, after, hparts, hlength, hoffset⟩ := exists_part_of_getElem? hp 0
  exact ⟨before, after, hparts, hlength, by rw [h.markers, hoffset, Nat.zero_add]⟩

/-- A marker stands in the text at each of the offsets. -/
theorem MadeOf.marker_at {parts : List Part} {b : BoundStatement} (h : MadeOf parts b) {m : Nat}
    (hm : m ∈ b.markers) :
    ∃ before after, b.text = before ++ marker :: after ∧ utf8Length before = m := by
  obtain ⟨i, hi, rfl⟩ := List.mem_iff_getElem.1 hm
  have hlength := h.length_markers
  obtain ⟨before, after, hparts, -, hoffset⟩ :=
    h.exists_part (List.getElem?_eq_getElem (show i < b.parameters.length by omega))
  refine ⟨textOf before, textOf after, by rw [h.text, hparts, textOf_append, textOf], ?_⟩
  rw [List.getElem?_eq_getElem hi] at hoffset
  exact (Option.some.inj hoffset).symm

/-- What holds of a statement made of parts: it has one marker for each parameter, at increasing
offsets at which its text holds a question mark; the marker at an index is in the place where the
parameter at that index was written; and its text in a dialect is the text of the parts with the
places of the dialect for the parameters, numbered from left to right, and all else copied. -/
structure WellMarked (b : BoundStatement) (parts : List Part) : Prop where
  length_markers : b.markers.length = b.parameters.length
  validate : b.validate = .ok ()
  increasing : b.markers.Pairwise (· < ·)
  marker_at : ∀ m ∈ b.markers,
    ∃ before after, b.text = before ++ '?' :: after ∧ utf8Length before = m
  stands_for : ∀ i p, b.parameters[i]? = some p →
    ∃ before after, parts = before ++ .parameter p :: after ∧ (parametersOf before).length = i ∧
      b.markers[i]? = some (utf8Length (textOf before))
  sql : b.sql = String.ofList (textOf parts)
  sqlFor_mySql : b.sqlFor .mySql = b.sql
  sqlFor_postgres : b.sqlFor .postgres = String.ofList (textIn .postgres 0 parts)

theorem MadeOf.wellMarked {parts : List Part} {b : BoundStatement} (h : MadeOf parts b) :
    WellMarked b parts where
  length_markers := h.length_markers
  validate := if_pos h.length_markers
  increasing := by
    rw [h.markers]
    exact offsetsFrom_increasing 0 parts
  marker_at _ := h.marker_at
  stands_for _ _ := h.exists_part
  sql := by rw [BoundStatement.sql, h.text]
  sqlFor_mySql := by rw [h.sqlFor, textIn_mySql, BoundStatement.sql, h.text]
  sqlFor_postgres := h.sqlFor .postgres

theorem resolve_escaped :
    (⟨.empty, .empty, .any, []⟩ : Resolver).resolve "é \\#\x7br\x7d ? #\x7bid\x7d" =
      .ok ⟨"é #\x7br\x7d ? ?".toList, [10], [.ofType "id" .any], []⟩ := by
  have htoken : Delimiters.placeholder.pieces false ['#', '\x7b', 'i', 'd', '\x7d'] =
      [.token ['i', 'd']] := by
    have hbody : ∀ c ∈ ['i', 'd'], c ≠ '\x7d' ∧ c ≠ '\\' := by simp
    have hread := Delimiters.pieces_token hbody false []
    rw [Delimiters.pieces_nil] at hread
    exact hread
  have hpieces : Delimiters.placeholder.pieces false
      ['é', ' ', '\\', '#', '\x7b', 'r', '\x7d', ' ', '?', ' ', '#', '\x7b', 'i', 'd', '\x7d'] =
        [.plain ['é'], .plain [' '], .plain ['#', '\x7b'], .plain ['r'], .plain ['\x7d'],
          .plain [' '], .plain ['?'], .plain [' '], .token ['i', 'd']] := by
    simp only [Delimiters.pieces_char, Delimiters.pieces_escaped, htoken, ne_eq, Char.reduceEq,
      not_false_eq_true]
  have htext : "é \\#\x7br\x7d ? #\x7bid\x7d".toList =
      ['é', ' ', '\\', '#', '\x7b', 'r', '\x7d', ' ', '?', ' ', '#', '\x7b', 'i', 'd', '\x7d'] := by rfl
  have hparameter : (⟨.empty, .empty, .any, []⟩ : Resolver).parameter (String.ofList ['i', 'd']) =
      .ok (.ofType "id" .any) := by
    have hid : Segment.IsPlain ⟨"id", none⟩ := ⟨⟨by decide, List.all_eq_true.1 (by decide)⟩, nofun⟩
    have hnil : ∀ t ∈ ([] : List Segment), t.IsPlain := nofun
    have hchars : Path.written ⟨"id", none⟩ [] = ['i', 'd'] := rfl
    rw [← hchars, Resolver.parameter_written _ hid hnil,
      Resolver.inferType_eq rfl (.inr rfl) (Path.parse_written hid hnil), Value.typeAt?_of_absent rfl rfl,
      hchars]
    rfl
  rw [Resolver.resolve_eq, htext, hpieces]
  simp only [List.mapM_cons, List.mapM_nil, Resolver.part, hparameter]
  rfl

end BoundStatement

end DynamicSql
