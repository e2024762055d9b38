import DynamicSql.Text.Blank
import Mathlib.Data.List.Basic
import Mathlib.Data.List.TakeWhile

/-!
# Trimmed texts

What dropping characters at the ends of a text leaves, when it is known what stands at the ends, and texts that are
made up of parts.
-/

namespace DynamicSql

open Text

variable {p : Char → Bool} {s w : List Char}

/-! ### In front -/

theorem dropWhile_eq_self_of_head (h : ∀ c ∈ s.head?, p c = false) : s.dropWhile p = s := by
  cases s with
  | nil => rfl
  | cons c s => exact List.dropWhile_cons_of_neg (by simp [h c rfl])

theorem takeWhile_append_of_head (hw : ∀ c ∈ w, p c = true) (hs : ∀ c ∈ s.head?, p c = false) :
    (w ++ s).takeWhile p = w := by
  rw [List.takeWhile_append_of_pos hw]
  cases s with
  | nil => simp
  | cons c s => rw [List.takeWhile_cons_of_neg (by simp [hs c rfl]), List.append_nil]

theorem dropWhile_append_of_head (hw : ∀ c ∈ w, p c = true) (hs : ∀ c ∈ s.head?, p c = false) :
    (w ++ s).dropWhile p = s := by
  rw [List.dropWhile_append_of_pos hw, dropWhile_eq_self_of_head hs]

theorem head?_dropWhile (p : Char → Bool) (s : List Char) : ∀ c ∈ (s.dropWhile p).head?, p c = false := by
  intro c hc
  have hnot := List.head?_dropWhile_not p s
  rw [hc] at hnot
  simpa using hnot

/-! ### Behind -/

theorem dropEndWhile_append_of_last (hw : ∀ c ∈ w, p c = true) (hs : ∀ c ∈ s.getLast?, p c = false) :
    dropEndWhile p (s ++ w) = s := by
  rw [dropEndWhile, List.reverse_append, dropWhile_append_of_head, List.reverse_reverse]
  · intro c hc
    exact hw c (List.mem_reverse.1 hc)
  · rwa [List.head?_reverse]

theorem takeEndWhile_append_of_last (hw : ∀ c ∈ w, p c = true) (hs : ∀ c ∈ s.getLast?, p c = false) :
    takeEndWhile p (s ++ w) = w := by
  rw [takeEndWhile, List.reverse_append, takeWhile_append_of_head, List.reverse_reverse]
  · intro c hc
    exact hw c (List.mem_reverse.1 hc)
  · rwa [List.head?_reverse]

theorem getLast?_dropEndWhile (p : Char → Bool) (s : List Char) :
    ∀ c ∈ (dropEndWhile p s).getLast?, p c = false := by
  rw [dropEndWhile, List.getLast?_reverse]
  exact head?_dropWhile p s.reverse

theorem of_mem_head?_dropEndWhile {c : Char} (h : c ∈ (dropEndWhile p s).head?) : c ∈ s.head? := by
  rw [← dropEndWhile_append_takeEndWhile p s, List.head?_append]
  exact Option.or_eq_some_iff.2 (.inl h)

theorem of_mem_takeEndWhile {c : Char} (h : c ∈ takeEndWhile p s) : p c = true := by
  rw [takeEndWhile, List.mem_reverse] at h
  exact List.mem_takeWhile_imp h

/-! ### At both ends -/

theorem dropWhile_eq_self (h : ∀ c ∈ s, p c = false) : s.dropWhile p = s :=
  dropWhile_eq_self_of_head fun c hc => h c (List.mem_of_head? hc)

theorem dropEndWhile_eq_self (h : ∀ c ∈ s, p c = false) : dropEndWhile p s = s := by
  rw [dropEndWhile, dropWhile_eq_self fun c hc => h c (List.mem_reverse.1 hc), List.reverse_reverse]

/-- No blank stands at the ends of the text. -/
structure IsTrimmed (s : List Char) : Prop where
  head : ∀ c ∈ s.head?, isBlank c = false
  last : ∀ c ∈ s.getLast?, isBlank c = false

theorem isTrimmed_of_forall (h : ∀ c ∈ s, isBlank c = false) : IsTrimmed s :=
  ⟨fun c hc => h c (List.mem_of_head? hc), fun c hc => h c (List.mem_of_getLast? hc)⟩

theorem IsTrimmed.trim_eq (h : IsTrimmed s) : trim s = s := by
  have hend := @dropEndWhile_append_of_last isBlank s [] (List.forall_mem_nil _) h.last
  rw [List.append_nil] at hend
  rw [trim, trimStart, dropWhile_eq_self_of_head h.head, trimEnd, hend]

theorem trim_eq_self (h : ∀ c ∈ s, isBlank c = false) : trim s = s := (isTrimmed_of_forall h).trim_eq

theorem isTrimmed_trim (s : List Char) : IsTrimmed (trim s) :=
  ⟨fun c hc => head?_dropWhile isBlank s c (of_mem_head?_dropEndWhile hc), getLast?_dropEndWhile isBlank _⟩

theorem mem_of_mem_trim {c : Char} (h : c ∈ trim s) : c ∈ s := by
  rw [trim, trimEnd, dropEndWhile, List.mem_reverse] at h
  have h := List.mem_reverse.1 ((List.dropWhile_sublist _).subset h)
  exact (List.dropWhile_sublist _).subset h

theorem length_trim_le (s : List Char) : (trim s).length ≤ s.length := by
  have hstart := (List.dropWhile_sublist isBlank (l := s)).length_le
  have hend := congrArg List.length (dropEndWhile_append_takeEndWhile isBlank (trimStart s))
  rw [List.length_append] at hend
  rw [trim, trimEnd]
  rw [trimStart] at hend ⊢
  omega

theorem mem_trim {c : Char} (hc : c ∈ s) (hblank : isBlank c = false) : c ∈ trim s := by
  have hstart : c ∈ trimStart s := by
    rw [← List.takeWhile_append_dropWhile (p := isBlank) (l := s)] at hc
    refine (List.mem_append.1 hc).resolve_left fun h => ?_
    rw [List.mem_takeWhile_imp h] at hblank
    cases hblank
  rw [← dropEndWhile_append_takeEndWhile isBlank (trimStart s)] at hstart
  refine (List.mem_append.1 hstart).resolve_right fun h => ?_
  rw [of_mem_takeEndWhile h] at hblank
  cases hblank

theorem IsTrimmed.append {t : List Char} (hs : IsTrimmed s) (ht : IsTrimmed t) : IsTrimmed (s ++ t) := by
  constructor
  · cases s with
    | nil => exact ht.head
    | cons d s => exact hs.head
  · intro c hc
    rw [List.getLast?_append] at hc
    rcases Option.or_eq_some_iff.1 hc with hc | ⟨-, hc⟩
    · exact ht.last c hc
    · exact hs.last c hc

theorem isTrimmed_flatMap {α : Type} {f : α → List Char} {l : List α} (h : ∀ a ∈ l, IsTrimmed (f a)) :
    IsTrimmed (l.flatMap f) := by
  induction l with
  | nil => exact isTrimmed_of_forall (List.forall_mem_nil _)
  | cons a l ih =>
    obtain ⟨ha, hl⟩ := List.forall_mem_cons.1 h
    exact ha.append (ih hl)

/-! ### Part by part -/

section Parts

variable {α β : Type} {f g : α → List β}

theorem length_flatMap_le (h : ∀ a, (f a).length ≤ (g a).length) (l : List α) :
    (l.flatMap f).length ≤ (l.flatMap g).length := by
  induction l with
  | nil => simp
  | cons a l ih =>
    have ha := h a
    simp only [List.flatMap_cons, List.length_append]
    omega

theorem flatMap_eq_flatMap_iff (h : ∀ a, (f a).length ≤ (g a).length) {l : List α} :
    l.flatMap f = l.flatMap g ↔ ∀ a ∈ l, f a = g a := by
  refine ⟨fun heq => ?_, List.flatMap_congr⟩
  induction l with
  | nil => simp
  | cons a l ih =>
    have ha := h a
    have hl := length_flatMap_le h l
    simp only [List.flatMap_cons] at heq
    have hlength := congrArg List.length heq
    simp only [List.length_append] at hlength
    obtain ⟨hfirst, hrest⟩ := List.append_inj heq (by omega)
    exact List.forall_mem_cons.2 ⟨hfirst, ih hrest⟩

end Parts

end DynamicSql
