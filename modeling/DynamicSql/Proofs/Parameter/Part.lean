import DynamicSql.Parameter.Resolve
import DynamicSql.Proofs.Step
import DynamicSql.Proofs.Template.Scan

/-!
# The parts of a statement

A statement can be seen as the list of what is written into it: text, and parameters. Its offsets are
those of the parameters in that list (`offsetsFrom`), cutting its text at the offsets gives the list
back (`numbered_offsetsFrom`), and resolving a text writes one part for each piece of the text
(`Resolver.resolve_eq`).
-/

namespace DynamicSql

open Step Text

namespace BoundStatement

/-- What is written into a statement: text, or a parameter. -/
inductive Part where
  | sql (text : List Char)
  | parameter (p : Parameter)

/-- The text of parts, with a marker for each parameter. -/
def textOf : List Part → List Char
  | [] => []
  | .sql text :: rest => text ++ textOf rest
  | .parameter _ :: rest => marker :: textOf rest

/-- The parameters among parts. -/
def parametersOf : List Part → List Parameter
  | [] => []
  | .sql _ :: rest => parametersOf rest
  | .parameter p :: rest => p :: parametersOf rest

/-- The offsets of the parameters among parts that begin at an offset. -/
def offsetsFrom (offset : Nat) : List Part → List Nat
  | [] => []
  | .sql text :: rest => offsetsFrom (offset + utf8Length text) rest
  | .parameter _ :: rest => offset :: offsetsFrom (offset + marker.utf8Size) rest

/-- The text of parts in a dialect: the places of the parameters are numbered from `index`, and text
is copied as it is. -/
def textIn (d : Dialect) (index : Nat) : List Part → List Char
  | [] => []
  | .sql text :: rest => text ++ textIn d index rest
  | .parameter _ :: rest => (d.placeholder index).toList ++ textIn d (index + 1) rest

@[simp] theorem textOf_append (l r : List Part) : textOf (l ++ r) = textOf l ++ textOf r := by
  induction l with
  | nil => rfl
  | cons part l ih => cases part <;> simp [textOf, ih]

@[simp] theorem parametersOf_append (l r : List Part) :
    parametersOf (l ++ r) = parametersOf l ++ parametersOf r := by
  induction l with
  | nil => rfl
  | cons part l ih => cases part <;> simp [parametersOf, ih]

theorem offsetsFrom_append (offset : Nat) (l r : List Part) :
    offsetsFrom offset (l ++ r) =
      offsetsFrom offset l ++ offsetsFrom (offset + utf8Length (textOf l)) r := by
  induction l generalizing offset with
  | nil => simp [offsetsFrom, textOf, utf8Length]
  | cons part l ih =>
    cases part <;> simp [offsetsFrom, textOf, utf8Length, ih, Nat.add_assoc]

theorem length_offsetsFrom (offset : Nat) (parts : List Part) :
    (offsetsFrom offset parts).length = (parametersOf parts).length := by
  induction parts generalizing offset with
  | nil => rfl
  | cons part parts ih => cases part <;> simp [offsetsFrom, parametersOf, ih]

theorem le_of_mem_offsetsFrom {offset m : Nat} {parts : List Part}
    (h : m ∈ offsetsFrom offset parts) : offset ≤ m := by
  induction parts generalizing offset with
  | nil => simp [offsetsFrom] at h
  | cons part parts ih =>
    cases part with
    | sql text =>
      have := ih h
      omega
    | parameter p =>
      rcases List.mem_cons.1 h with rfl | h
      · exact Nat.le_refl _
      · have := ih h
        omega

theorem offsetsFrom_increasing (offset : Nat) (parts : List Part) :
    (offsetsFrom offset parts).Pairwise (· < ·) := by
  induction parts generalizing offset with
  | nil => exact .nil
  | cons part parts ih =>
    cases part with
    | sql text => exact ih _
    | parameter p =>
      refine .cons (fun m hm => ?_) (ih _)
      have := le_of_mem_offsetsFrom hm
      have := marker.utf8Size_pos
      omega

/-- The parameter at an index is the part in front of which that many parameters are written, and the
marker at the index is at its offset. -/
theorem exists_part_of_getElem? {parts : List Part} {i : Nat} {p : Parameter}
    (h : (parametersOf parts)[i]? = some p) (offset : Nat) :
    ∃ before after, parts = before ++ .parameter p :: after ∧ (parametersOf before).length = i ∧
      (offsetsFrom offset parts)[i]? = some (offset + utf8Length (textOf before)) := by
  induction parts generalizing i offset with
  | nil => simp [parametersOf] at h
  | cons part parts ih =>
    cases part with
    | sql text =>
      obtain ⟨before, after, rfl, hlength, hoffset⟩ := ih h (offset + utf8Length text)
      refine ⟨.sql text :: before, after, rfl, hlength, ?_⟩
      rw [offsetsFrom, hoffset, textOf, utf8Length_append, Nat.add_assoc]
    | parameter q =>
      cases i with
      | zero =>
        obtain rfl : q = p := Option.some.inj h
        exact ⟨[], parts, rfl, rfl, by simp [offsetsFrom, textOf, utf8Length]⟩
      | succ i =>
        obtain ⟨before, after, rfl, hlength, hoffset⟩ := ih h (offset + marker.utf8Size)
        refine ⟨.parameter q :: before, after, rfl, by simp [parametersOf, hlength], ?_⟩
        rw [offsetsFrom, List.getElem?_cons_succ, hoffset, textOf, utf8Length, Nat.add_assoc]

/-! ### Cutting the text at the markers -/

theorem numbered_append (d : Dialect) (index offset : Nat) (text : List Char) (parts : List Part) :
    numbered d index offset (offsetsFrom (offset + utf8Length text) parts) (text ++ textOf parts) =
      text ++ numbered d index (offset + utf8Length text) (offsetsFrom (offset + utf8Length text) parts)
        (textOf parts) := by
  cases hoffsets : offsetsFrom (offset + utf8Length text) parts with
  | nil => rfl
  | cons m rest =>
    have hle : offset + utf8Length text ≤ m := le_of_mem_offsetsFrom (by rw [hoffsets]; exact .head _)
    obtain ⟨k, rfl⟩ := Nat.exists_eq_add_of_le hle
    have hcut := splitOffset_append text (textOf parts) k
    rw [numbered, numbered, show offset + utf8Length text + k - offset = utf8Length text + k by omega,
      show offset + utf8Length text + k - (offset + utf8Length text) = k by omega, hcut]
    simp only [List.append_assoc]

/-- Cutting the text of parts at their offsets gives back the parts. -/
theorem numbered_offsetsFrom (d : Dialect) (index offset : Nat) (parts : List Part) :
    numbered d index offset (offsetsFrom offset parts) (textOf parts) = textIn d index parts := by
  induction parts generalizing index offset with
  | nil => rfl
  | cons part parts ih =>
    cases part with
    | sql text => rw [offsetsFrom, textOf, numbered_append, ih, textIn]
    | parameter p =>
      have hcut : splitOffset marker.utf8Size (marker :: textOf parts) = ([marker], textOf parts) :=
        splitOffset_utf8Length [marker] (textOf parts)
      rw [offsetsFrom, textOf, numbered, Nat.sub_self, splitOffset_zero]
      simp only [hcut, ih, textIn, List.nil_append]

theorem textIn_mySql (index : Nat) (parts : List Part) : textIn .mySql index parts = textOf parts := by
  induction parts generalizing index with
  | nil => rfl
  | cons part parts ih =>
    cases part with
    | sql text => rw [textIn, textOf, ih]
    | parameter p => simp [textIn, textOf, ih, Dialect.placeholder, marker]

/-- The statement that parts make up. -/
def ofParts (parts : List Part) : BoundStatement :=
  ⟨textOf parts, offsetsFrom 0 parts, parametersOf parts, []⟩

theorem validate_ofParts (parts : List Part) : (ofParts parts).validate = .ok () :=
  if_pos (length_offsetsFrom 0 parts)

/-! ### Parts that are laid out alike -/

/-- What a part contributes to the text: its own text, or a marker. -/
def Part.layout : Part → Option (List Char)
  | .sql text => some text
  | .parameter _ => none

theorem textOf_congr {l r : List Part} (h : l.map Part.layout = r.map Part.layout) :
    textOf l = textOf r := by
  induction l generalizing r with
  | nil =>
    obtain rfl := List.map_eq_nil_iff.1 h.symm
    rfl
  | cons part l ih =>
    obtain ⟨part', r, rfl, hpart, hr⟩ := List.map_eq_cons_iff.1 h.symm
    have ih := ih hr.symm
    cases part <;> cases part' <;> cases hpart <;> rw [textOf, textOf, ih]

theorem offsetsFrom_congr {l r : List Part} (h : l.map Part.layout = r.map Part.layout) (offset : Nat) :
    offsetsFrom offset l = offsetsFrom offset r := by
  induction l generalizing r offset with
  | nil =>
    obtain rfl := List.map_eq_nil_iff.1 h.symm
    rfl
  | cons part l ih =>
    obtain ⟨part', r, rfl, hpart, hr⟩ := List.map_eq_cons_iff.1 h.symm
    have ih := ih hr.symm
    cases part <;> cases part' <;> cases hpart <;> rw [offsetsFrom, offsetsFrom, ih]

end BoundStatement

open BoundStatement

/-! ### Resolving writes one part for each piece -/

namespace Resolver

/-- The part for a piece of the rendered text. -/
def part (r : Resolver) : Piece → Except BindError Part
  | .plain text => .ok (.sql text)
  | .token body => (r.parameter (String.ofList body)).map .parameter

theorem run_writePiece_ok {r : Resolver} {body : List Char} {p : Parameter}
    (hp : r.parameter (String.ofList body) = .ok p) (out : List Char) (marks : Marks) :
    (Delimiters.writePiece r.mark out (.token body)).run marks =
      .ok (out ++ [marker], ⟨marks.offsets ++ [utf8Length out], marks.parameters ++ [p]⟩) := by
  simp only [Delimiters.writePiece, mark, hp]
  rfl

theorem run_writePiece_error {r : Resolver} {body : List Char} {e : BindError}
    (hp : r.parameter (String.ofList body) = .error e) (out : List Char) (marks : Marks) :
    (Delimiters.writePiece r.mark out (.token body)).run marks = .error e := by
  simp only [Delimiters.writePiece, mark, hp]
  rfl

theorem foldlM_mark (r : Resolver) (pieces : List Piece) (out : List Char) (marks : Marks) :
    (pieces.foldlM (Delimiters.writePiece r.mark) out).run marks =
      (pieces.mapM r.part).map fun parts =>
        (out ++ textOf parts, ⟨marks.offsets ++ offsetsFrom (utf8Length out) parts,
          marks.parameters ++ parametersOf parts⟩) := by
  induction pieces generalizing out marks with
  | nil =>
    rw [List.foldlM_nil, List.mapM_nil, StateT.run_pure]
    simp [Except.map, pure, Except.pure, textOf, offsetsFrom, parametersOf]
  | cons piece pieces ih =>
    rw [List.foldlM_cons, List.mapM_cons, StateT.run_bind]
    cases piece with
    | plain text =>
      simp only [Delimiters.writePiece, StateT.run_pure, pure_bind, ih, part]
      cases pieces.mapM r.part <;>
        simp [Except.map, bind, Except.bind, pure, Except.pure, textOf, offsetsFrom, parametersOf]
    | token body =>
      cases hp : r.parameter (String.ofList body) with
      | error e =>
        rw [run_writePiece_error hp]
        simp [part, hp, Except.map, bind, Except.bind]
      | ok p =>
        rw [run_writePiece_ok hp]
        simp only [part, hp, Except.map, bind, Except.bind, ih]
        cases pieces.mapM r.part <;>
          simp [pure, Except.pure, textOf, offsetsFrom, parametersOf, utf8Length]

theorem resolve_eq (r : Resolver) (sql : String) :
    r.resolve sql = ((Delimiters.placeholder.pieces false sql.toList).mapM r.part).map ofParts := by
  rw [resolve, Delimiters.replace, foldlM_mark]
  cases (Delimiters.placeholder.pieces false sql.toList).mapM r.part with
  | error e => rfl
  | ok parts =>
    have hvalid := validate_ofParts parts
    simp only [ofParts] at hvalid
    simp [Except.map, bind, Except.bind, pure, Except.pure, ofParts, utf8Length, hvalid]

theorem resolve_eq_ok {r : Resolver} {sql : String} {b : BoundStatement} :
    r.resolve sql = .ok b ↔
      ∃ parts, (Delimiters.placeholder.pieces false sql.toList).mapM r.part = .ok parts ∧
        b = ofParts parts := by
  rw [resolve_eq, except_map_eq_ok]

theorem validate_of_resolve {r : Resolver} {sql : String} {b : BoundStatement}
    (h : r.resolve sql = .ok b) : b.validate = .ok () := by
  obtain ⟨parts, -, rfl⟩ := resolve_eq_ok.1 h
  exact validate_ofParts parts

end Resolver

end DynamicSql
