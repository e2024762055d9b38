import DynamicSql.Dialect
import Mathlib.Logic.Function.Basic

/-!
# Reading quoted identifiers

In both dialects a quoted identifier goes from an opening mark to the first mark that is not doubled, and a doubled
mark inside it stands for one mark. A text is read as an identifier with something behind it just if quoting writes
this identifier in front of that rest, and the rest does not begin with a mark
(`Dialect.readIdentifier_eq_some_iff`). So no identifier ends before its closing mark, whatever marks it has.
-/

namespace DynamicSql

namespace Dialect

/-- The characters up to the first mark that is not doubled, and those behind this mark. Of a doubled mark one is
read. -/
def readMarked (mark : Char) : List Char → Option (List Char × List Char)
  | [] => none
  | [c] => if c = mark then some ([], []) else none
  | c :: c' :: text =>
    if c = mark then
      if c' = mark then (readMarked mark text).map (Prod.map (mark :: ·) id) else some ([], c' :: text)
    else (readMarked mark (c' :: text)).map (Prod.map (c :: ·) id)

/-- The identifier that a text begins with, and what follows it. -/
def readIdentifier (d : Dialect) (text : String) : Option (String × String) :=
  match text.toList with
  | [] => none
  | c :: s => if c = d.quoteMark then (readMarked d.quoteMark s).map (Prod.map String.ofList String.ofList) else none

/-! ### What stands between the marks -/

variable {mark c : Char} {s text rest : List Char}

theorem doubleMarks_cons (mark c : Char) (s : List Char) :
    doubleMarks mark (c :: s) = if c = mark then mark :: mark :: doubleMarks mark s else c :: doubleMarks mark s := by
  rw [doubleMarks, List.flatMap_cons]
  split
  · next h => rw [h]; rfl
  · rfl

theorem readMarked_doubled (mark : Char) (text : List Char) :
    readMarked mark (mark :: mark :: text) = (readMarked mark text).map (Prod.map (mark :: ·) id) := by
  rw [readMarked, if_pos rfl, if_pos rfl]

theorem readMarked_closing (h : text.head? ≠ some mark) : readMarked mark (mark :: text) = some ([], text) := by
  cases text with
  | nil => exact if_pos rfl
  | cons c text => rw [readMarked, if_pos rfl, if_neg fun hc => h (congrArg some hc)]

theorem readMarked_other (h : c ≠ mark) (text : List Char) :
    readMarked mark (c :: text) = (readMarked mark text).map (Prod.map (c :: ·) id) := by
  cases text with
  | nil => exact if_neg h
  | cons c' text => rw [readMarked, if_neg h]

theorem readMarked_doubleMarks (s : List Char) (h : rest.head? ≠ some mark) :
    readMarked mark (doubleMarks mark s ++ mark :: rest) = some (s, rest) := by
  induction s with
  | nil => exact readMarked_closing h
  | cons c s ih =>
    rw [doubleMarks_cons]
    split
    · next hc =>
      subst hc
      exact (readMarked_doubled c _).trans (congrArg (Option.map _) ih)
    · next hc => exact (readMarked_other hc _).trans (congrArg (Option.map _) ih)

theorem of_readMarked (h : readMarked mark text = some (s, rest)) :
    text = doubleMarks mark s ++ mark :: rest ∧ rest.head? ≠ some mark := by
  fun_induction readMarked mark text generalizing s with
  | case1 => cases h
  | case2 =>
    cases h
    exact ⟨rfl, (Option.some_ne_none mark).symm⟩
  | case3 => cases h
  | case4 text ih =>
    obtain ⟨⟨s', rest'⟩, hread, heq⟩ := Option.map_eq_some_iff.1 h
    cases heq
    obtain ⟨rfl, hrest⟩ := ih hread
    exact ⟨by rw [doubleMarks_cons, if_pos rfl]; rfl, hrest⟩
  | case5 c' text hc' =>
    cases h
    exact ⟨rfl, fun hhead => hc' (Option.some.inj hhead)⟩
  | case6 c c' text hc ih =>
    obtain ⟨⟨s', rest'⟩, hread, heq⟩ := Option.map_eq_some_iff.1 h
    cases heq
    obtain ⟨htext, hrest⟩ := ih hread
    exact ⟨by rw [doubleMarks_cons, if_neg hc, htext]; rfl, hrest⟩

/-! ### Quoted identifiers -/

theorem toList_quoteIdentifier_append (d : Dialect) (ident rest : String) :
    (d.quoteIdentifier ident ++ rest).toList =
      d.quoteMark :: (doubleMarks d.quoteMark ident.toList ++ d.quoteMark :: rest.toList) := by
  rw [String.toList_append, quoteIdentifier, String.toList_ofList]
  simp only [List.cons_append, List.append_assoc, List.nil_append]

theorem readIdentifier_of_toList {d : Dialect} {text : String} (h : text.toList = d.quoteMark :: s) :
    d.readIdentifier text = (readMarked d.quoteMark s).map (Prod.map String.ofList String.ofList) := by
  rw [readIdentifier, h]
  exact if_pos rfl

theorem exists_of_readIdentifier {d : Dialect} {text ident rest : String}
    (h : d.readIdentifier text = some (ident, rest)) :
    ∃ s, text.toList = d.quoteMark :: s ∧ readMarked d.quoteMark s = some (ident.toList, rest.toList) := by
  rw [readIdentifier] at h
  split at h
  · cases h
  · next c s htext =>
    split at h
    · next hc =>
      obtain ⟨⟨ident', rest'⟩, hread, heq⟩ := Option.map_eq_some_iff.1 h
      cases heq
      exact ⟨s, hc ▸ htext, by rw [hread, String.toList_ofList, String.toList_ofList]⟩
    · cases h

/-- A text is read as an identifier and a rest just if the quoted identifier stands in front of that rest. -/
theorem readIdentifier_eq_some_iff {d : Dialect} {text ident rest : String} :
    d.readIdentifier text = some (ident, rest) ↔
      text = d.quoteIdentifier ident ++ rest ∧ rest.toList.head? ≠ some d.quoteMark := by
  constructor
  · intro h
    obtain ⟨s, htext, hread⟩ := exists_of_readIdentifier h
    obtain ⟨rfl, hrest⟩ := of_readMarked hread
    exact ⟨String.toList_inj.1 (htext.trans (toList_quoteIdentifier_append d ident rest).symm), hrest⟩
  · rintro ⟨rfl, hrest⟩
    rw [readIdentifier_of_toList (toList_quoteIdentifier_append d ident rest), readMarked_doubleMarks _ hrest]
    exact congrArg some (Prod.ext String.ofList_toList String.ofList_toList)

theorem readIdentifier_quoteIdentifier (d : Dialect) (ident : String) :
    d.readIdentifier (d.quoteIdentifier ident) = some (ident, "") :=
  readIdentifier_eq_some_iff.2 ⟨String.append_empty.symm, (Option.some_ne_none _).symm⟩

end Dialect

end DynamicSql
