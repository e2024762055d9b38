import DynamicSql.Proofs.Path.Written
import DynamicSql.Template.Render

/-!
# The variables of iterations

Each alias has a variable of its own in each iteration: variables of different aliases or iterations have
different names (`Loop.bindingName_inj`), and none of them is a name that a template can use for
something else. In the body of an iteration, just the placeholders whose root is an alias are pointed
at its variable (`Loop.retarget_written`).
-/

namespace DynamicSql

open Text

/-- Whether a name begins as the variables of iterations do. -/
def IsVariable (name : String) : Prop := "__frch_".toList <+: name.toList

instance : DecidablePred IsVariable := fun name =>
  inferInstanceAs (Decidable ("__frch_".toList <+: name.toList))

/-- A name that an alias or the root of a path can have. -/
structure IsFreeName (name : String) : Prop where
  isName : IsName name
  not_variable : ¬ IsVariable name

namespace Loop

/-! ### Names -/

theorem toList_bindingName (name : String) (number : Nat) :
    (bindingName name number).toList =
      "__frch_".toList ++ (name.toList ++ '_' :: Nat.toDigits 10 number) := by
  rw [bindingName, String.toList_append, String.toList_append, String.toList_append, Nat.toList_repr,
    List.append_assoc, List.append_assoc]
  rfl

theorem isVariable_bindingName (name : String) (number : Nat) : IsVariable (bindingName name number) := by
  rw [IsVariable, toList_bindingName]
  exact List.prefix_append _ _

theorem isName_bindingName {name : String} (h : IsName name) (number : Nat) :
    IsName (bindingName name number) where
  ne_nil := by
    rw [toList_bindingName]
    exact List.append_ne_nil_of_left_ne_nil (by decide) _
  chars := by
    rw [toList_bindingName]
    intro c hc
    rcases List.mem_append.1 hc with hc | hc
    · have hprefix : "__frch_".toList.all isNameChar = true := by decide
      exact List.all_eq_true.1 hprefix c hc
    · rcases List.mem_append.1 hc with hc | hc
      · exact h.chars c hc
      · rcases List.mem_cons.1 hc with rfl | hc
        · decide
        · exact isNameChar_of_mem_toDigits hc

theorem append_separator_inj {α : Type} {x y d e : List α} {separator : α} (hd : separator ∉ d)
    (he : separator ∉ e) (h : x ++ separator :: d = y ++ separator :: e) : x = y ∧ d = e := by
  induction x generalizing y with
  | nil =>
    cases y with
    | nil => exact ⟨rfl, (List.cons.inj h).2⟩
    | cons c y =>
      obtain ⟨-, rfl⟩ := List.cons.inj h
      exact absurd (List.mem_append_right _ (.head _)) hd
  | cons c x ih =>
    cases y with
    | nil =>
      obtain ⟨-, rfl⟩ := List.cons.inj h
      exact absurd (List.mem_append_right _ (.head _)) he
    | cons c' y =>
      obtain ⟨rfl, htail⟩ := List.cons.inj h
      obtain ⟨rfl, rfl⟩ := ih htail
      exact ⟨rfl, rfl⟩

/-- The name of a variable tells its alias and its iteration. -/
theorem bindingName_inj {name name' : String} {number number' : Nat}
    (h : bindingName name number = bindingName name' number') : name = name' ∧ number = number' := by
  have h := congrArg String.toList h
  rw [toList_bindingName, toList_bindingName] at h
  obtain ⟨hname, hdigits⟩ := append_separator_inj Nat.underscore_not_in_toDigits
    Nat.underscore_not_in_toDigits (List.append_cancel_left h)
  refine ⟨String.toList_inj.1 hname, ?_⟩
  rw [← Nat.ofDigitChars_ten_toDigits (n := number), hdigits, Nat.ofDigitChars_ten_toDigits]

theorem bindingName_ne_of_free {name name' : String} (h : ¬ IsVariable name') (number : Nat) :
    name' ≠ bindingName name number := by
  rintro rfl
  exact h (isVariable_bindingName name number)

/-! ### Placeholders whose root is an alias -/

variable {s : Segment} {rest : List Segment}

theorem prefix_of_chars {p : Char → Bool} {w n r : List Char} (hw : ∀ c ∈ w, p c = true)
    (hr : ∀ c ∈ r.head?, p c = false) (h : w <+: n ++ r) : w <+: n := by
  induction w generalizing n with
  | nil => exact List.nil_prefix
  | cons c w ih =>
    cases n with
    | nil =>
      obtain ⟨t, ht⟩ := h
      have hc := hr c (by rw [List.nil_append] at ht; rw [← ht]; rfl)
      rw [hw c (.head _)] at hc
      cases hc
    | cons d n =>
      obtain ⟨rfl, htail⟩ := List.cons_prefix_cons.1 h
      exact List.cons_prefix_cons.2 ⟨rfl, ih (fun c hc => hw c (.tail _ hc)) htail⟩

/-- What is written behind the root of a path. -/
def behindRoot (s : Segment) (rest : List Segment) : List Char := s.indexText ++ Path.tailText rest

theorem written_eq (s : Segment) (rest : List Segment) :
    Path.written s rest = s.name.toList ++ behindRoot s rest := by
  rw [Path.written, Segment.chars, behindRoot, List.append_assoc]

theorem head_behindRoot {c : Char} (h : c ∈ (behindRoot s rest).head?) : c = '[' ∨ c = '.' := by
  rw [behindRoot, Segment.indexText] at h
  split at h
  · exact .inl (Option.some.inj h).symm
  · cases rest with
    | nil => cases h
    | cons t rest => exact .inr (Option.some.inj h).symm

theorem afterAlias?_written {name : String} (hname : IsName name) (hs : s.IsPlain)
    (hrest : ∀ t ∈ rest, t.IsPlain) :
    afterAlias? name (Path.written s rest) = if name = s.name then some (behindRoot s rest) else none := by
  have htrim : trimStart (Path.written s rest) = Path.written s rest :=
    dropWhile_eq_self fun c hc => not_blank_of_isPathChar (Path.isPathChar_of_mem_written hs hrest hc)
  have hend : ∀ c ∈ (behindRoot s rest).head?, isNameChar c = false := by
    intro c hc
    rcases head_behindRoot hc with rfl | rfl <;> decide
  rw [afterAlias?, htrim]
  split
  · next hprefix =>
    have hprefix := List.isPrefixOf_iff_prefix.1 hprefix
    rw [written_eq] at hprefix
    obtain ⟨tail, htail⟩ := prefix_of_chars hname.chars hend hprefix
    have hdrop : (Path.written s rest).drop name.toList.length = tail ++ behindRoot s rest := by
      rw [written_eq, ← htail, List.append_assoc, List.drop_left]
    rw [hdrop]
    cases tail with
    | nil =>
      rw [List.append_nil] at htail
      rw [if_pos (String.toList_inj.1 htail), List.nil_append]
      cases hbehind : behindRoot s rest with
      | nil => rfl
      | cons c behind =>
        have hc : c = '[' ∨ c = '.' := head_behindRoot (by rw [hbehind]; rfl)
        refine if_pos ?_
        rcases hc with rfl | rfl <;> simp
    | cons c tail =>
      have hmem : c ∈ s.name.toList := by
        rw [← htail]
        exact List.mem_append_right _ (.head _)
      have hc := hs.name.chars c hmem
      have hne : ¬ name = s.name := by
        rintro rfl
        have hlength := congrArg List.length htail
        rw [List.length_append, List.length_cons] at hlength
        omega
      rw [if_neg hne, List.cons_append]
      refine if_neg ?_
      rintro (rfl | rfl | rfl | rfl | hblank)
      · exact ne_of_isNameChar hc (d := '.') (by decide) rfl
      · exact ne_of_isNameChar hc (d := ',') (by decide) rfl
      · exact ne_of_isNameChar hc (d := ':') (by decide) rfl
      · exact ne_of_isNameChar hc (d := '[') (by decide) rfl
      · rw [not_blank_of_isNameChar hc] at hblank
        cases hblank
  · next hprefix =>
    rw [if_neg]
    rintro rfl
    refine hprefix (List.isPrefixOf_iff_prefix.2 ?_)
    rw [written_eq]
    exact List.prefix_append _ _

/-- The segment with the variable of an iteration as its name. -/
def renamed (number : Nat) (s : Segment) : Segment := { s with name := bindingName s.name number }

theorem isPlain_renamed (hs : s.IsPlain) (number : Nat) : (renamed number s).IsPlain :=
  ⟨isName_bindingName hs.name number, hs.index⟩

/-- The root of a path is pointed at the variable of the iteration if it is an alias. -/
theorem retarget_written {aliases : List String} (haliases : ∀ name ∈ aliases, IsName name)
    (hs : s.IsPlain) (hrest : ∀ t ∈ rest, t.IsPlain) (number : Nat) :
    retarget aliases number (Path.written s rest) =
      if s.name ∈ aliases then Path.written (renamed number s) rest else Path.written s rest := by
  rw [retarget]
  induction aliases with
  | nil => rfl
  | cons name aliases ih =>
    have ih := ih fun name hname => haliases name (.tail _ hname)
    have hafter := afterAlias?_written (haliases name (.head _)) hs hrest
    by_cases hroot : name = s.name
    · rw [if_pos hroot] at hafter
      rw [List.findSome?_cons, hafter, if_pos (by rw [hroot]; exact .head _), hroot]
      exact (written_eq (renamed number s) rest).symm
    · rw [if_neg hroot] at hafter
      rw [List.findSome?_cons, hafter]
      have hmem : s.name ∈ name :: aliases ↔ s.name ∈ aliases := by
        rw [List.mem_cons]
        exact or_iff_right fun h => hroot h.symm
      simp only [hmem]
      exact ih

end Loop

end DynamicSql
