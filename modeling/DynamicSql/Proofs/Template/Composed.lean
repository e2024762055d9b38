import DynamicSql.Proofs.Path.Written
import DynamicSql.Proofs.Template.Scan
import Mathlib.Data.List.Induction
import Mathlib.Tactic.Tauto

/-!
# Texts composed of plain characters and placeholders

A text is composed of plain characters and of placeholders with given insides, each the text of a path.
Putting such texts together puts the lists of insides together, and cutting plain characters off at
either end leaves the list as it is (`Composed.of_append_left`, `Composed.of_append_right`).
-/

namespace DynamicSql

open Text

theorem eq_of_not_isPlain {c : Char} (h : ¬ isPlain c = true) :
    c = '#' ∨ c = '\x7b' ∨ c = '\x7d' ∨ c = '\\' := by
  simp only [isPlain, Bool.and_eq_true, bne_iff_ne, not_and_or, not_not] at h
  tauto

namespace Lexeme

/-- A plain character, or a placeholder of a path. -/
inductive IsPlain : Lexeme → Prop
  | char {c : Char} : isPlain c = true → IsPlain (.char c)
  | path {s : Segment} {rest : List Segment} : s.IsPlain → (∀ t ∈ rest, t.IsPlain) →
      IsPlain (.placeholder (Path.written s rest))

theorem IsPlain.readable {l : Lexeme} (h : l.IsPlain) : l.Readable := by
  cases h with
  | char hc => exact hc
  | path hs hrest =>
    intro c hc
    have hpath := Path.isPathChar_of_mem_written hs hrest hc
    exact ⟨ne_of_isPathChar hpath (by decide) (by decide) (by decide) (by decide),
      ne_of_isPathChar hpath (by decide) (by decide) (by decide) (by decide)⟩

/-- The inside of a part that is a placeholder. -/
def body? : Lexeme → Option (List Char)
  | char _ => none
  | placeholder body => some body

/-- The insides of the placeholders, in order. -/
def bodies (ls : List Lexeme) : List (List Char) := ls.filterMap body?

@[simp] theorem bodies_append (ls ms : List Lexeme) : bodies (ls ++ ms) = bodies ls ++ bodies ms :=
  List.filterMap_append

theorem exists_of_mem_bodies {ls : List Lexeme} (h : ∀ l ∈ ls, l.IsPlain) {body : List Char}
    (hbody : body ∈ bodies ls) :
    ∃ s rest, s.IsPlain ∧ (∀ t ∈ rest, t.IsPlain) ∧ body = Path.written s rest := by
  obtain ⟨l, hl, hlbody⟩ := List.mem_filterMap.1 hbody
  cases h l hl with
  | char => cases hlbody
  | path hs hrest => exact ⟨_, _, hs, hrest, (Option.some.inj hlbody).symm⟩

theorem textOf_map_char (t : List Char) : textOf (t.map .char) = t := by
  induction t with
  | nil => rfl
  | cons c t ih => rw [List.map_cons, textOf_cons, ih]; rfl

theorem bodies_map_char (t : List Char) : bodies (t.map .char) = [] := by
  induction t with
  | nil => rfl
  | cons c t ih => exact ih

/-- The parts of a text that ends in the placeholder of a path. -/
def endingIn (before : List Char) (s : Segment) (rest : List Segment) : List Lexeme :=
  before.map .char ++ [.placeholder (Path.written s rest)]

theorem forall_mem_endingIn {P : Lexeme → Prop} {before : List Char} {s : Segment} {rest : List Segment}
    (hbefore : ∀ c, isPlain c = true → P (.char c)) (hlast : P (.placeholder (Path.written s rest)))
    (hplain : before.all isPlain = true) : ∀ l ∈ endingIn before s rest, P l := by
  intro l hl
  rcases List.mem_append.1 hl with hl | hl
  · obtain ⟨c, hc, rfl⟩ := List.mem_map.1 hl
    exact hbefore c (List.all_eq_true.1 hplain c hc)
  · obtain rfl := List.mem_singleton.1 hl
    exact hlast

theorem bodies_endingIn (before : List Char) (s : Segment) (rest : List Segment) :
    bodies (endingIn before s rest) = [Path.written s rest] := by
  rw [endingIn, bodies_append, bodies_map_char]
  rfl

theorem exists_of_textOf_cons {ls : List Lexeme} {c : Char} {t : List Char} (hc : isPlain c = true)
    (h : textOf ls = c :: t) : ∃ ms, ls = .char c :: ms ∧ textOf ms = t := by
  cases ls with
  | nil => cases h
  | cons l ls =>
    cases l with
    | char d =>
      obtain ⟨rfl, ht⟩ := List.cons.inj h
      exact ⟨ls, rfl, ht⟩
    | placeholder body =>
      obtain ⟨rfl, -⟩ := List.cons.inj h
      cases hc

theorem exists_of_textOf_concat {ls : List Lexeme} {c : Char} {t : List Char} (hc : isPlain c = true)
    (h : textOf ls = t ++ [c]) : ∃ ms, ls = ms ++ [.char c] ∧ textOf ms = t := by
  rcases List.eq_nil_or_concat ls with rfl | ⟨ms, l, rfl⟩
  · cases t <;> cases h
  · rw [List.concat_eq_append, textOf_append] at h
    rw [List.concat_eq_append]
    cases l with
    | char d =>
      have hlast : textOf ms ++ [d] = t ++ [c] := h
      obtain ⟨ht, hd⟩ := List.append_inj' hlast rfl
      obtain rfl := (List.cons.inj hd).1
      exact ⟨ms, rfl, ht⟩
    | placeholder body =>
      have hlast : (textOf ms ++ '#' :: '\x7b' :: body) ++ ['\x7d'] = t ++ [c] := by
        rw [← h]
        simp [text]
      obtain ⟨-, hd⟩ := List.append_inj' hlast rfl
      obtain rfl := (List.cons.inj hd).1
      cases hc

end Lexeme

open Lexeme

/-- The text is composed of plain characters and of placeholders with these insides, in order. -/
def Composed (bs : List (List Char)) (t : List Char) : Prop :=
  ∃ ls, (∀ l ∈ ls, l.IsPlain) ∧ textOf ls = t ∧ bodies ls = bs

namespace Composed

variable {bs cs : List (List Char)} {t u : List Char}

theorem plain (h : ∀ c ∈ t, isPlain c = true) : Composed [] t := by
  refine ⟨t.map .char, fun l hl => ?_, textOf_map_char t, bodies_map_char t⟩
  obtain ⟨c, hc, rfl⟩ := List.mem_map.1 hl
  exact .char (h c hc)

theorem nil : Composed [] [] := plain nofun

theorem append (h : Composed bs t) (h' : Composed cs u) : Composed (bs ++ cs) (t ++ u) := by
  obtain ⟨ls, hls, rfl, rfl⟩ := h
  obtain ⟨ms, hms, rfl, rfl⟩ := h'
  exact ⟨ls ++ ms, fun l hl => (List.mem_append.1 hl).elim (hls l) (hms l), textOf_append ls ms,
    bodies_append ls ms⟩

theorem of_append_left (h : Composed bs (t ++ u)) (ht : ∀ c ∈ t, isPlain c = true) : Composed bs u := by
  obtain ⟨ls, hls, htext, hbodies⟩ := h
  induction t generalizing ls with
  | nil => exact ⟨ls, hls, htext, hbodies⟩
  | cons c t ih =>
    obtain ⟨ms, rfl, hms⟩ := exists_of_textOf_cons (ht c (.head _)) htext
    exact ih (fun d hd => ht d (.tail _ hd)) ms (fun l hl => hls l (.tail _ hl)) hms hbodies

theorem of_append_right (h : Composed bs (t ++ u)) (hu : ∀ c ∈ u, isPlain c = true) : Composed bs t := by
  induction u using List.reverseRecOn with
  | nil =>
    rw [List.append_nil] at h
    exact h
  | append_singleton u c ih =>
    obtain ⟨ls, hls, htext, hbodies⟩ := h
    rw [← List.append_assoc] at htext
    obtain ⟨ms, rfl, hms⟩ :=
      exists_of_textOf_concat (hu c (List.mem_append_right _ (List.mem_singleton_self c))) htext
    rw [bodies_append] at hbodies
    refine ih ⟨ms, fun l hl => hls l (List.mem_append_left _ hl), hms, ?_⟩
      fun d hd => hu d (List.mem_append_left _ hd)
    rw [← hbodies]
    exact (List.append_nil _).symm

/-! ### Blanks -/

theorem isPlain_of_isBlank {c : Char} (h : isBlank c = true) : isPlain c = true := by
  by_contra hplain
  have hmark : isBlank c = false := by
    rcases eq_of_not_isPlain hplain with rfl | rfl | rfl | rfl <;> decide
  rw [hmark] at h
  cases h

theorem eq_nil_of_allBlank (h : Composed bs t) (ht : allBlank t = true) : bs = [] := by
  have hplain : ∀ c ∈ t, isPlain c = true := fun c hc =>
    isPlain_of_isBlank (List.all_eq_true.1 ht c hc)
  rw [← List.append_nil t] at h
  obtain ⟨ls, -, htext, rfl⟩ := h.of_append_left hplain
  cases ls with
  | nil => rfl
  | cons l ls => cases l <;> cases htext

theorem trimStart (h : Composed bs t) : Composed bs (trimStart t) := by
  refine of_append_left (t := t.takeWhile isBlank) ?_ fun c hc =>
    isPlain_of_isBlank (List.mem_takeWhile_imp hc)
  rw [Text.trimStart, List.takeWhile_append_dropWhile]
  exact h

end Composed

end DynamicSql
