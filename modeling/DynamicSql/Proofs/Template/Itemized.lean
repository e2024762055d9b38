import DynamicSql.Proofs.Template.Composed
import DynamicSql.Proofs.Template.Variable

/-!
# Texts of iterations

An iteration leaves the plain characters of a composed text as they are, and points the inside of each
placeholder at its variables (`Composed.itemize`).
-/

namespace DynamicSql

open Lexeme

variable {aliases : List String} {number : Nat}

namespace Lexeme

/-- The part with the inside of a placeholder pointed at the variables of an iteration. -/
def retargeted (aliases : List String) (number : Nat) : Lexeme → Lexeme
  | char c => .char c
  | placeholder body => .placeholder (Loop.retarget aliases number body)

theorem bodies_map_retargeted (ls : List Lexeme) :
    bodies (ls.map (retargeted aliases number)) = (bodies ls).map (Loop.retarget aliases number) := by
  induction ls with
  | nil => rfl
  | cons l ls ih =>
    cases l with
    | char c => exact ih
    | placeholder body => exact congrArg _ ih

theorem IsPlain.retargeted (haliases : ∀ name ∈ aliases, IsName name) {l : Lexeme} (h : l.IsPlain) :
    (l.retargeted aliases number).IsPlain := by
  cases h with
  | char hc => exact .char hc
  | @path s rest hs hrest =>
    rw [Lexeme.retargeted, Loop.retarget_written haliases hs hrest]
    split
    · exact .path (Loop.isPlain_renamed hs number) hrest
    · exact .path hs hrest

end Lexeme

namespace Loop

theorem placeholderAround_eq {body : List Char} (h : ∀ c ∈ body, c ≠ '\x7d') :
    placeholderAround body = (Lexeme.placeholder body).text := by
  have hescape : body.flatMap (fun c => if c = '\x7d' then ['\\', c] else [c]) = body := by
    induction body with
    | nil => rfl
    | cons c body ih =>
      rw [List.flatMap_cons, if_neg (h c (.head _)), ih fun d hd => h d (.tail _ hd)]
      rfl
  rw [placeholderAround, hescape]
  rfl

theorem filled_retarget (haliases : ∀ name ∈ aliases, IsName name) {l : Lexeme} (h : l.IsPlain) :
    l.piece.filled (fun body => placeholderAround (retarget aliases number body)) =
      (l.retargeted aliases number).text := by
  have hreadable : (l.retargeted aliases number).Readable := (h.retargeted haliases).readable
  cases l with
  | char c => rfl
  | placeholder body =>
    rw [Lexeme.retargeted, ← placeholderAround_eq fun c hc => (hreadable c hc).1]
    rfl

theorem itemize_textOf (haliases : ∀ name ∈ aliases, IsName name) {ls : List Lexeme}
    (h : ∀ l ∈ ls, l.IsPlain) :
    itemize aliases number (textOf ls) = textOf (ls.map (Lexeme.retargeted aliases number)) := by
  have hreplaced : itemize aliases number (textOf ls) = _ := Delimiters.replace_eq_flatMap .placeholder true _ (textOf ls)
  rw [hreplaced, pieces_textOf fun l hl => (h l hl).readable, textOf, List.flatMap_map, List.flatMap_map]
  exact List.flatMap_congr fun l hl => filled_retarget haliases (h l hl)

end Loop

theorem Composed.itemize {bs : List (List Char)} {t : List Char} (h : Composed bs t)
    (haliases : ∀ name ∈ aliases, IsName name) :
    Composed (bs.map (Loop.retarget aliases number)) (Loop.itemize aliases number t) := by
  obtain ⟨ls, hls, rfl, rfl⟩ := h
  refine ⟨ls.map (Lexeme.retargeted aliases number), fun l hl => ?_, ?_, bodies_map_retargeted ls⟩
  · obtain ⟨m, hm, rfl⟩ := List.mem_map.1 hl
    exact (hls m hm).retargeted haliases
  · exact (Loop.itemize_textOf haliases hls).symm

end DynamicSql
