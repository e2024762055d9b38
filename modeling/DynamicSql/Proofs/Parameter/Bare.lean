import DynamicSql.Proofs.Parameter.Untyped
import DynamicSql.Proofs.Path.Written

/-!
# Placeholders without attributes

A placeholder that is a path and nothing else stands for a parameter of which only the property and a
type are known, the type being inferred.
-/

namespace DynamicSql

open Text

variable {s : Segment} {rest : List Segment}

namespace Placeholder

theorem splitCommas_eq {w : List Char} (h : ∀ c ∈ w, c ≠ ',') : splitCommas w = [w] := by
  induction w with
  | nil => rfl
  | cons c w ih =>
    rw [splitCommas, if_neg (h c (.head _)), ih fun c hc => h c (.tail _ hc)]

theorem parse_of_isPathChar {w : List Char} (hchars : ∀ c ∈ w, isPathChar c = true) (hne : w ≠ []) :
    parse (String.ofList w) = .ok ⟨String.ofList w, []⟩ := by
  have hdrop : w.dropWhile (fun c => decide (c ≤ ' ')) = w :=
    dropWhile_eq_self fun c hc => decide_eq_false (lt_of_isPathChar (hchars c hc))
  have hhead : w.head? ≠ some '(' := fun h =>
    ne_of_isPathChar (hchars '(' (List.mem_of_mem_head? h)) (d := '(') (by decide) (by decide) (by decide)
      (by decide) rfl
  have hcommas : splitCommas w = [w] :=
    splitCommas_eq fun c hc =>
      ne_of_isPathChar (hchars c hc) (by decide) (by decide) (by decide) (by decide)
  have htake : w.takeWhile (fun c => decide (c ≠ ':')) = w :=
    List.takeWhile_eq_self_iff.2 fun c hc => decide_eq_true
      (ne_of_isPathChar (hchars c hc) (by decide) (by decide) (by decide) (by decide))
  have htrim : trim w = w := trim_eq_self fun c hc => not_blank_of_isPathChar (hchars c hc)
  have hempty : w.isEmpty = false := List.isEmpty_eq_false_iff.2 hne
  have hread : head w = .ok (String.ofList w, []) := by
    rw [head, htake, htrim, List.drop_length]
    dsimp only
    rw [hempty, if_neg Bool.false_ne_true]
  rw [parse, String.toList_ofList, read, hdrop]
  dsimp only
  rw [if_neg hhead, hcommas]
  simp only [hread]
  rfl

theorem parse_written (hs : s.IsPlain) (hrest : ∀ t ∈ rest, t.IsPlain) :
    parse (String.ofList (Path.written s rest)) = .ok ⟨String.ofList (Path.written s rest), []⟩ :=
  parse_of_isPathChar (fun _ hc => Path.isPathChar_of_mem_written hs hrest hc)
    (List.append_ne_nil_of_left_ne_nil hs.chars_ne_nil _)

end Placeholder

namespace Resolver

theorem parameter_of_no_attributes (r : Resolver) {body property : String}
    (h : Placeholder.parse body = .ok ⟨property, []⟩) :
    r.parameter body = .ok (.ofType property (r.inferType property none)) :=
  parameter_eq_ok.2 ⟨⟨property, []⟩, none, .ofType property (r.inferType property none), none, h, rfl, rfl,
    rfl, rfl⟩

theorem parameter_written (r : Resolver) (hs : s.IsPlain) (hrest : ∀ t ∈ rest, t.IsPlain) :
    r.parameter (String.ofList (Path.written s rest)) =
      .ok (.ofType (String.ofList (Path.written s rest))
        (r.inferType (String.ofList (Path.written s rest)) none)) :=
  r.parameter_of_no_attributes (Placeholder.parse_written hs hrest)

end Resolver

end DynamicSql
