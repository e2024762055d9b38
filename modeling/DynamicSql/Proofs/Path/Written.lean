import DynamicSql.Path.Basic
import DynamicSql.Proofs.Step
import DynamicSql.Proofs.Text.Blank

/-!
# Paths as they are written

A path of names, some of them with an index, is read back from its text (`Path.parse_written`). Names are
of characters that mean nothing in a path or in a placeholder, such as letters, digits and underscores.
-/

namespace DynamicSql

open Step Text

/-- The characters that mean something in paths and placeholders. -/
def markChars : List Char :=
  ['.', ',', ':', '=', '[', ']', '(', '\'', '"', '#', '\x7b', '\x7d', '\\']

/-- Whether a character can stand in a name: it is above the blank, not a blank, and means nothing. -/
def isNameChar (c : Char) : Bool := decide (' ' < c) && !isBlank c && !markChars.contains c

/-- A name: at least one character, all of them of the kind that names are made of. -/
structure IsName (s : String) : Prop where
  ne_nil : s.toList ≠ []
  chars : ∀ c ∈ s.toList, isNameChar c = true

/-- A character of a path: one of a name, a point or a bracket. -/
def isPathChar (c : Char) : Bool := isNameChar c || c == '.' || c == '[' || c == ']'

theorem not_blank_of_isNameChar {c : Char} (h : isNameChar c = true) : isBlank c = false := by
  simp only [isNameChar, Bool.and_eq_true, Bool.not_eq_true'] at h
  exact h.1.2

theorem ne_of_isNameChar {c d : Char} (h : isNameChar c = true) (hd : d ∈ markChars) : c ≠ d := by
  rintro rfl
  simp only [isNameChar, Bool.and_eq_true, Bool.not_eq_true', List.contains_eq_mem,
    decide_eq_false_iff_not] at h
  exact h.2 hd

theorem isNameChar_of_isAlphanum {c : Char} (h : c.isAlphanum = true) : isNameChar c = true := by
  have hmarks : markChars.all (fun d => !d.isAlphanum) = true := by decide
  have hmark : c ∉ markChars := by
    intro hc
    have hnot := List.all_eq_true.1 hmarks c hc
    rw [h] at hnot
    cases hnot
  have hrange : 48 ≤ c.toNat ∧ c.toNat ≤ 122 := by
    rcases Bool.or_eq_true_iff.1 h with hletter | hdigit
    · rcases Bool.or_eq_true_iff.1 hletter with hupper | hlower
      · obtain ⟨hlow, hhigh⟩ := of_decide_eq_true hupper
        have hlow : 65 ≤ c.toNat := hlow
        have hhigh : c.toNat ≤ 90 := hhigh
        omega
      · obtain ⟨hlow, hhigh⟩ := Bool.and_eq_true_iff.1 hlower
        have hlow : 97 ≤ c.toNat := of_decide_eq_true hlow
        have hhigh : c.toNat ≤ 122 := of_decide_eq_true hhigh
        omega
    · obtain ⟨hlow, hhigh⟩ := Bool.and_eq_true_iff.1 hdigit
      have hlow : 48 ≤ c.toNat := of_decide_eq_true hlow
      have hhigh : c.toNat ≤ 57 := of_decide_eq_true hhigh
      omega
  have hblank : isBlank c = false := by
    simp only [isBlank, Bool.or_eq_false_iff, Bool.and_eq_false_iff, decide_eq_false_iff_not,
      beq_eq_false_iff_ne]
    omega
  have hlt : ' ' < c := by
    show 32 < c.toNat
    omega
  simp [isNameChar, hlt, hblank, hmark]

theorem isNameChar_of_mem_toDigits {n : Nat} {c : Char} (h : c ∈ Nat.toDigits 10 n) :
    isNameChar c = true := by
  have hdigit := Nat.isDigit_of_mem_toDigits (by decide) (by decide) h
  exact isNameChar_of_isAlphanum (by rw [Char.isAlphanum, hdigit, Bool.or_true])

theorem isPathChar_of_isNameChar {c : Char} (h : isNameChar c = true) : isPathChar c = true := by
  simp [isPathChar, h]

theorem not_blank_of_isPathChar {c : Char} (h : isPathChar c = true) : isBlank c = false := by
  simp only [isPathChar, Bool.or_eq_true, beq_iff_eq] at h
  rcases h with ((h | rfl) | rfl) | rfl
  · exact not_blank_of_isNameChar h
  all_goals rfl

theorem lt_of_isPathChar {c : Char} (h : isPathChar c = true) : ¬ c ≤ ' ' := by
  simp only [isPathChar, Bool.or_eq_true, beq_iff_eq] at h
  rcases h with ((h | rfl) | rfl) | rfl
  · simp only [isNameChar, Bool.and_eq_true, decide_eq_true_eq] at h
    exact Char.not_le.2 h.1.1
  all_goals decide

theorem ne_of_isPathChar {c d : Char} (h : isPathChar c = true) (hd : d ∈ markChars)
    (hpoint : d ≠ '.') (hopening : d ≠ '[') (hclosing : d ≠ ']') : c ≠ d := by
  rintro rfl
  simp only [isPathChar, Bool.or_eq_true, beq_iff_eq] at h
  rcases h with ((h | h) | h) | h
  · exact ne_of_isNameChar h hd rfl
  · exact hpoint h
  · exact hopening h
  · exact hclosing h

/-! ### Segments -/

namespace Segment

/-- What is written behind the name of a segment: its index in brackets, if it has one. -/
def indexText (s : Segment) : List Char :=
  match s.index with
  | some index => '[' :: (index.toList ++ [']'])
  | none => []

/-- The text of a segment. -/
def chars (s : Segment) : List Char := s.name.toList ++ s.indexText

/-- A segment of a name, and of an index of the same characters if there is one. -/
structure IsPlain (s : Segment) : Prop where
  name : IsName s.name
  index : ∀ index ∈ s.index, IsName index

variable {s : Segment}

theorem isPlain_of_name {name : String} (h : IsName name) : IsPlain ⟨name, none⟩ :=
  ⟨h, fun _ hindex => absurd hindex (Option.not_mem_none _)⟩

theorem IsPlain.isPathChar (h : s.IsPlain) {c : Char} (hc : c ∈ s.chars) :
    DynamicSql.isPathChar c = true := by
  rw [chars, indexText] at hc
  rcases List.mem_append.1 hc with hc | hc
  · exact isPathChar_of_isNameChar (h.name.chars c hc)
  · split at hc
    · next index hindex =>
      rcases List.mem_cons.1 hc with rfl | hc
      · rfl
      · rcases List.mem_append.1 hc with hc | hc
        · exact isPathChar_of_isNameChar ((h.index index hindex).chars c hc)
        · obtain rfl := List.mem_singleton.1 hc
          rfl
    · cases hc

theorem IsPlain.chars_ne_nil (h : s.IsPlain) : s.chars ≠ [] :=
  List.append_ne_nil_of_left_ne_nil h.name.ne_nil _

end Segment

namespace Path

variable {s : Segment} {rest : List Segment}

/-- The text of the segments behind the first one. -/
def tailText (rest : List Segment) : List Char := rest.flatMap fun s => '.' :: s.chars

/-- The text of a path. -/
def written (s : Segment) (rest : List Segment) : List Char := s.chars ++ tailText rest

theorem isPathChar_of_mem_written (hs : s.IsPlain) (hrest : ∀ t ∈ rest, t.IsPlain) {c : Char}
    (hc : c ∈ written s rest) : isPathChar c = true := by
  rcases List.mem_append.1 hc with hc | hc
  · exact hs.isPathChar hc
  · obtain ⟨t, ht, hc⟩ := List.mem_flatMap.1 hc
    rcases List.mem_cons.1 hc with rfl | hc
    · rfl
    · exact (hrest t ht).isPathChar hc

/-! ### Splitting at points -/

theorem splitPoints_cons {c : Char} {depth : Nat} (hpoint : ¬ (c = '.' ∧ depth = 0)) {t part : List Char}
    {parts : List (List Char)}
    (ht : splitPoints (if c = '[' then depth + 1 else if c = ']' then depth - 1 else depth) t =
      part :: parts) :
    splitPoints depth (c :: t) = (c :: part) :: parts := by
  rw [splitPoints, if_neg hpoint]
  dsimp only
  rw [ht]

/-- A text that is kept in one part: it does not split, and brackets that open in it also close. -/
def Unsplit (w : List Char) : Prop :=
  ∀ {t part : List Char} {parts : List (List Char)}, splitPoints 0 t = part :: parts →
    splitPoints 0 (w ++ t) = (w ++ part) :: parts

theorem splitPoints_outside {w : List Char} (hw : ∀ c ∈ w, c ≠ '.' ∧ c ≠ '[' ∧ c ≠ ']') {depth : Nat}
    {t part : List Char} {parts : List (List Char)} (ht : splitPoints depth t = part :: parts) :
    splitPoints depth (w ++ t) = (w ++ part) :: parts := by
  induction w with
  | nil => exact ht
  | cons c w ih =>
    obtain ⟨hpoint, hopening, hclosing⟩ := hw c (.head _)
    refine splitPoints_cons (fun h => hpoint h.1) ?_
    rw [if_neg hopening, if_neg hclosing]
    exact ih fun c hc => hw c (.tail _ hc)

theorem splitPoints_append {w : List Char} (hw : ∀ c ∈ w, isNameChar c = true) {depth : Nat}
    {t part : List Char} {parts : List (List Char)} (ht : splitPoints depth t = part :: parts) :
    splitPoints depth (w ++ t) = (w ++ part) :: parts := by
  refine splitPoints_outside (fun c hc => ?_) ht
  have hc := hw c hc
  exact ⟨ne_of_isNameChar hc (by decide), ne_of_isNameChar hc (by decide), ne_of_isNameChar hc (by decide)⟩

theorem splitPoints_inside {inner : List Char} (hinner : ∀ c ∈ inner, c ≠ '[' ∧ c ≠ ']')
    {t part : List Char} {parts : List (List Char)} (ht : splitPoints 1 t = part :: parts) :
    splitPoints 1 (inner ++ t) = (inner ++ part) :: parts := by
  induction inner with
  | nil => exact ht
  | cons c inner ih =>
    obtain ⟨hopening, hclosing⟩ := hinner c (.head _)
    refine splitPoints_cons (fun h => absurd h.2 (by decide)) ?_
    rw [if_neg hopening, if_neg hclosing]
    exact ih fun c hc => hinner c (.tail _ hc)

theorem Unsplit.append {v w : List Char} (hv : Unsplit v) (hw : Unsplit w) : Unsplit (v ++ w) := by
  intro t part parts ht
  rw [List.append_assoc, List.append_assoc]
  exact hv (hw ht)

/-- The text of a segment with an index. -/
def bracketed (name inner : List Char) : List Char := name ++ '[' :: (inner ++ [']'])

theorem unsplit_brackets {inner : List Char} (hinner : ∀ c ∈ inner, c ≠ '[' ∧ c ≠ ']') :
    Unsplit (bracketed [] inner) := by
  intro t part parts ht
  have hclosing : splitPoints 1 (']' :: t) = (']' :: part) :: parts :=
    splitPoints_cons (by decide) ht
  have hinside := splitPoints_inside hinner hclosing
  have hopening : splitPoints 0 ('[' :: (inner ++ ']' :: t)) = ('[' :: (inner ++ ']' :: part)) :: parts :=
    splitPoints_cons (by decide) hinside
  simpa [bracketed] using hopening

theorem unsplit_bracketed {name inner : List Char} (hname : ∀ c ∈ name, isNameChar c = true)
    (hinner : ∀ c ∈ inner, c ≠ '[' ∧ c ≠ ']') : Unsplit (bracketed name inner) :=
  Unsplit.append (splitPoints_append hname) (unsplit_brackets hinner)

theorem ne_bracket_of_isName {s : String} (h : IsName s) : ∀ c ∈ s.toList, c ≠ '[' ∧ c ≠ ']' :=
  fun c hc => ⟨ne_of_isNameChar (h.chars c hc) (by decide), ne_of_isNameChar (h.chars c hc) (by decide)⟩

theorem unsplit_chars (hs : s.IsPlain) : Unsplit s.chars := by
  rw [Segment.chars, Segment.indexText]
  cases hindex : s.index with
  | none =>
    rw [List.append_nil]
    exact splitPoints_append hs.name.chars
  | some index => exact unsplit_bracketed hs.name.chars (ne_bracket_of_isName (hs.index index hindex))

theorem splitPoints_joined {part : List Char} {parts : List (List Char)} (hpart : Unsplit part)
    (hparts : ∀ w ∈ parts, Unsplit w) :
    splitPoints 0 (part ++ parts.flatMap ('.' :: ·)) = part :: parts := by
  have htail : splitPoints 0 (parts.flatMap ('.' :: ·)) = [] :: parts := by
    induction parts with
    | nil => rfl
    | cons w parts ih =>
      obtain ⟨hw, hparts⟩ := List.forall_mem_cons.1 hparts
      rw [List.flatMap_cons, List.cons_append, splitPoints, if_pos ⟨rfl, rfl⟩, hw (ih hparts),
        List.append_nil]
  rw [hpart htail, List.append_nil]

theorem splitPoints_written (hs : s.IsPlain) (hrest : ∀ t ∈ rest, t.IsPlain) :
    splitPoints 0 (written s rest) = s.chars :: rest.map Segment.chars := by
  have htail : ∀ w ∈ rest.map Segment.chars, Unsplit w :=
    List.forall_mem_map.2 fun t ht => unsplit_chars (hrest t ht)
  have hjoined := splitPoints_joined (unsplit_chars hs) htail
  rwa [List.flatMap_map] at hjoined

/-! ### Reading back -/

theorem segment?_unindexed {name : String} (hname : ∀ c ∈ name.toList, c ≠ '[') (htrimmed : IsTrimmed name.toList)
    (hne : name.toList ≠ []) : segment? name.toList = .ok ⟨name, none⟩ := by
  have htake : name.toList.takeWhile (fun c => decide (c ≠ '[')) = name.toList :=
    List.takeWhile_eq_self_iff.2 fun c hc => decide_eq_true (hname c hc)
  rw [segment?, htrimmed.trim_eq, htake, List.drop_length]
  dsimp only
  rw [List.isEmpty_eq_false_iff.2 hne, if_neg Bool.false_ne_true, String.ofList_toList]

theorem isTrimmed_of_isNameChar {name : List Char} (h : ∀ c ∈ name, isNameChar c = true) : IsTrimmed name :=
  isTrimmed_of_forall fun c hc => not_blank_of_isNameChar (h c hc)

theorem segment?_name {name : String} (h : IsName name) : segment? name.toList = .ok ⟨name, none⟩ :=
  segment?_unindexed (fun c hc => ne_of_isNameChar (h.chars c hc) (by decide)) (isTrimmed_of_isNameChar h.chars)
    h.ne_nil

theorem getLast?_bracketed (name inner : List Char) : (bracketed name inner).getLast? = some ']' := by
  rw [bracketed, ← List.cons_append, ← List.append_assoc, List.getLast?_concat]

theorem isTrimmed_bracketed {name : List Char} (hname : IsTrimmed name) (inner : List Char) :
    IsTrimmed (bracketed name inner) := by
  refine hname.append ⟨?_, ?_⟩
  · intro c hc
    obtain rfl := Option.some.inj hc
    rfl
  · intro c hc
    rw [← List.cons_append, List.getLast?_concat] at hc
    obtain rfl := Option.some.inj hc
    rfl

theorem segment?_indexed {name inner : List Char} (hname : ∀ c ∈ name, c ≠ '[') (htrimmed : IsTrimmed name)
    (hinner : IsTrimmed inner) (hne : inner ≠ []) :
    segment? (bracketed name inner) = .ok ⟨String.ofList name,
      some (String.ofList (dropEndWhile isQuote (inner.dropWhile isQuote)))⟩ := by
  have htake : (bracketed name inner).takeWhile (fun c => decide (c ≠ '[')) = name := by
    apply takeWhile_append_of_head
    · exact fun c hc => decide_eq_true (hname c hc)
    · intro c hc
      obtain rfl := Option.some.inj hc
      rfl
  have hdrop : (bracketed name inner).drop name.length = '[' :: (inner ++ [']']) := List.drop_left
  rw [segment?, (isTrimmed_bracketed htrimmed inner).trim_eq, htake, hdrop]
  dsimp only
  rw [getLast?_bracketed, if_neg (by simp), List.dropLast_concat, hinner.trim_eq, List.isEmpty_eq_false_iff.2 hne,
    if_neg Bool.false_ne_true, htrimmed.trim_eq]

theorem not_isQuote_of_isNameChar {c : Char} (h : isNameChar c = true) : isQuote c = false := by
  simp [isQuote, ne_of_isNameChar h (d := '\'') (by decide), ne_of_isNameChar h (d := '"') (by decide)]

theorem segment?_bracketed_name {name inner : List Char} (hname : ∀ c ∈ name, isNameChar c = true)
    (hinner : ∀ c ∈ inner, isNameChar c = true) (hne : inner ≠ []) :
    segment? (bracketed name inner) = .ok ⟨String.ofList name, some (String.ofList inner)⟩ := by
  have hquote : ∀ c ∈ inner, isQuote c = false := fun c hc => not_isQuote_of_isNameChar (hinner c hc)
  have hbracket : ∀ c ∈ name, c ≠ '[' := fun c hc => ne_of_isNameChar (hname c hc) (by decide)
  rw [segment?_indexed hbracket (isTrimmed_of_isNameChar hname) (isTrimmed_of_isNameChar hinner) hne,
    dropWhile_eq_self hquote, dropEndWhile_eq_self hquote]

theorem segment?_chars (hs : s.IsPlain) : segment? s.chars = .ok s := by
  obtain ⟨name, index⟩ := s
  cases index with
  | none =>
    rw [Segment.chars, Segment.indexText, List.append_nil]
    exact segment?_name hs.name
  | some index =>
    have hindex := hs.index index rfl
    have hsegment := segment?_bracketed_name hs.name.chars hindex.chars hindex.ne_nil
    rwa [String.ofList_toList, String.ofList_toList] at hsegment

theorem parse_of_parts {text : List Char} {parts : List (List Char)} {segments : List Segment}
    (htrim : trim text = text) (hne : text ≠ []) (hsplit : splitPoints 0 text = parts)
    (hsegments : List.Forall₂ (fun part s => segment? part = .ok s) parts segments) :
    parse (String.ofList text) = .ok ⟨String.ofList text, segments⟩ := by
  rw [parse, String.toList_ofList, htrim, List.isEmpty_eq_false_iff.2 hne, if_neg Bool.false_ne_true,
    hsplit, mapM_eq_ok.2 hsegments]

theorem parse_joined {part : List Char} {parts : List (List Char)} {segments : List Segment} (hne : part ≠ [])
    (hunsplit : ∀ w ∈ part :: parts, Unsplit w) (htrimmed : ∀ w ∈ part :: parts, IsTrimmed w)
    (hsegments : List.Forall₂ (fun part s => segment? part = .ok s) (part :: parts) segments) :
    parse (String.ofList (part ++ parts.flatMap ('.' :: ·))) =
      .ok ⟨String.ofList (part ++ parts.flatMap ('.' :: ·)), segments⟩ := by
  obtain ⟨hpart, hparts⟩ := List.forall_mem_cons.1 hunsplit
  obtain ⟨hhead, htail⟩ := List.forall_mem_cons.1 htrimmed
  have hpoint : IsTrimmed ['.'] := isTrimmed_of_forall (List.forall_mem_singleton.2 rfl)
  have hall : IsTrimmed (part ++ parts.flatMap ('.' :: ·)) :=
    hhead.append (isTrimmed_flatMap fun w hw => hpoint.append (htail w hw))
  exact parse_of_parts hall.trim_eq (List.append_ne_nil_of_left_ne_nil hne _) (splitPoints_joined hpart hparts)
    hsegments

/-- A path is read back as it was written. -/
theorem parse_written (hs : s.IsPlain) (hrest : ∀ t ∈ rest, t.IsPlain) :
    parse (String.ofList (written s rest)) = .ok ⟨String.ofList (written s rest), s :: rest⟩ := by
  have hblank : ∀ c ∈ written s rest, isBlank c = false := fun c hc =>
    not_blank_of_isPathChar (isPathChar_of_mem_written hs hrest hc)
  refine parse_of_parts (trim_eq_self hblank) (List.append_ne_nil_of_left_ne_nil hs.chars_ne_nil _)
    (splitPoints_written hs hrest) (.cons (segment?_chars hs) ?_)
  rw [List.forall₂_map_left_iff]
  exact List.forall₂_same.2 fun t ht => segment?_chars (hrest t ht)

end Path

end DynamicSql
