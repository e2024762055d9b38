import DynamicSql.Proofs.Path.Written

/-!
# Paths with indexes

An index is written as a position, or as a key in quotation marks, which may hold any characters but
quotation marks, brackets and backslashes. A path of names with such indexes is read back from its text
(`Path.parse_linked`).
-/

namespace DynamicSql

open Step Text

/-! ### Indexes -/

/-- An index as it is written: a position, or a key between two quotation marks. -/
inductive Subscript where
  | position (n : Nat)
  | quoted (mark : Char) (key : String)

namespace Subscript

/-- The text between the brackets. -/
def chars : Subscript → List Char
  | position n => Nat.toDigits 10 n
  | quoted mark key => mark :: (key.toList ++ [mark])

/-- The lookup key of the index. -/
def key : Subscript → String
  | position n => Nat.repr n
  | quoted _ key => key

/-- The characters that a key cannot hold. -/
def reserved : List Char := ['\'', '"', '[', ']', '\\']

/-- An index that is read back: the marks are quotation marks, and the key holds none of the reserved
characters. -/
inductive IsWritten : Subscript → Prop
  | position (n : Nat) : IsWritten (position n)
  | quoted {mark : Char} {key : String} (hmark : mark = '\'' ∨ mark = '"')
      (hkey : ∀ c ∈ key.toList, c ∉ reserved) : IsWritten (quoted mark key)

variable {i : Subscript}

theorem not_blank_of_mark {c : Char} (h : c = '\'' ∨ c = '"') : isBlank c = false := by
  rcases h with rfl | rfl <;> rfl

theorem chars_ne_nil (i : Subscript) : i.chars ≠ [] := by
  cases i with
  | position n => exact Nat.toDigits_ne_nil
  | quoted mark key => exact List.cons_ne_nil _ _

theorem IsWritten.ne_bracket (h : i.IsWritten) : ∀ c ∈ i.chars, c ≠ '[' ∧ c ≠ ']' := by
  intro c hc
  cases h with
  | position n =>
    have hname := isNameChar_of_mem_toDigits hc
    exact ⟨ne_of_isNameChar hname (by decide), ne_of_isNameChar hname (by decide)⟩
  | quoted hmark hkey =>
    have hends : c ∉ reserved → c ≠ '[' ∧ c ≠ ']' := fun hfree =>
      ⟨fun heq => hfree (by rw [heq]; decide), fun heq => hfree (by rw [heq]; decide)⟩
    have hmarks : ∀ mark, mark = '\'' ∨ mark = '"' → mark ≠ '[' ∧ mark ≠ ']' := by
      rintro mark (rfl | rfl) <;> decide
    rcases List.mem_cons.1 hc with rfl | hc
    · exact hmarks _ hmark
    · rcases List.mem_append.1 hc with hc | hc
      · exact hends (hkey c hc)
      · obtain rfl := List.mem_singleton.1 hc
        exact hmarks _ hmark

theorem IsWritten.isTrimmed (h : i.IsWritten) : IsTrimmed i.chars := by
  cases h with
  | position n => exact Path.isTrimmed_of_isNameChar fun c hc => isNameChar_of_mem_toDigits hc
  | @quoted mark key hmark _ =>
    constructor
    · intro c hc
      obtain rfl := Option.some.inj hc
      exact not_blank_of_mark hmark
    · intro c hc
      rw [chars, ← List.cons_append, List.getLast?_concat] at hc
      obtain rfl := Option.some.inj hc
      exact not_blank_of_mark hmark

theorem IsWritten.unquoted (h : i.IsWritten) :
    dropEndWhile Path.isQuote (i.chars.dropWhile Path.isQuote) = i.key.toList := by
  cases h with
  | position n =>
    have hquote : ∀ c ∈ Nat.toDigits 10 n, Path.isQuote c = false := fun c hc =>
      Path.not_isQuote_of_isNameChar (isNameChar_of_mem_toDigits hc)
    rw [chars, dropWhile_eq_self hquote, dropEndWhile_eq_self hquote, key, Nat.toList_repr]
  | @quoted mark k hmark hkey =>
    have hmarkquote : Path.isQuote mark = true := by rcases hmark with rfl | rfl <;> rfl
    have hkeyquote : ∀ c ∈ k.toList, Path.isQuote c = false := by
      intro c hc
      have hfree := hkey c hc
      by_contra hquote
      rcases Bool.or_eq_true_iff.1 (Bool.of_not_eq_false hquote) with heq | heq
      · exact hfree (by rw [eq_of_beq heq]; decide)
      · exact hfree (by rw [eq_of_beq heq]; decide)
    rw [chars, List.dropWhile_cons_of_pos hmarkquote, key]
    cases hk : k.toList with
    | nil => rw [List.nil_append, List.dropWhile_cons_of_pos hmarkquote]; rfl
    | cons c rest =>
      rw [hk] at hkeyquote
      have hhead : ¬ Path.isQuote c = true := by rw [hkeyquote c (.head _)]; exact Bool.false_ne_true
      rw [List.cons_append, List.dropWhile_cons_of_neg hhead, ← List.cons_append]
      apply dropEndWhile_append_of_last (List.forall_mem_singleton.2 hmarkquote)
      exact fun d hd => hkeyquote d (List.mem_of_getLast? hd)

end Subscript

/-! ### Paths -/

/-- A name with at most one index. -/
structure Link where
  name : String
  index : Option Subscript

namespace Link

def segment (l : Link) : Segment := ⟨l.name, l.index.map Subscript.key⟩

/-- The lookup keys of a link: its name, and that of its index. -/
def keys (l : Link) : List String := l.name :: (l.index.map Subscript.key).toList

/-- The text of a link. -/
def chars (l : Link) : List Char :=
  match l.index with
  | some i => Path.bracketed l.name.toList i.chars
  | none => l.name.toList

/-- A link whose name is a name, and whose index is read back. -/
structure IsWritten (l : Link) : Prop where
  name : IsName l.name
  index : ∀ i ∈ l.index, i.IsWritten

variable {l : Link}

theorem IsWritten.keys_segment (h : l.IsWritten) : l.segment.keys = l.keys := by
  have hname : l.name.isEmpty = false := by
    rw [String.isEmpty_eq_false_iff]
    exact fun heq => h.name.ne_nil (by rw [heq]; rfl)
  rw [Segment.keys, segment, hname, if_neg Bool.false_ne_true]
  rfl

theorem IsWritten.unsplit (h : l.IsWritten) : Path.Unsplit l.chars := by
  rw [chars]
  cases hindex : l.index with
  | none => exact Path.splitPoints_append h.name.chars
  | some i => exact Path.unsplit_bracketed h.name.chars (h.index i hindex).ne_bracket

theorem IsWritten.segment?_eq (h : l.IsWritten) : Path.segment? l.chars = .ok l.segment := by
  rw [chars, segment]
  cases hindex : l.index with
  | none => exact Path.segment?_name h.name
  | some i =>
    have hi := h.index i hindex
    have hbracket : ∀ c ∈ l.name.toList, c ≠ '[' := fun c hc => ne_of_isNameChar (h.name.chars c hc) (by decide)
    have hsegment := Path.segment?_indexed hbracket (Path.isTrimmed_of_isNameChar h.name.chars) hi.isTrimmed
      i.chars_ne_nil
    rwa [hi.unquoted, String.ofList_toList, String.ofList_toList] at hsegment

theorem chars_ne_nil (h : l.IsWritten) : l.chars ≠ [] := by
  rw [chars]
  split
  · exact List.append_ne_nil_of_left_ne_nil h.name.ne_nil _
  · exact h.name.ne_nil

theorem IsWritten.isTrimmed (h : l.IsWritten) : IsTrimmed l.chars := by
  have hname := Path.isTrimmed_of_isNameChar h.name.chars
  rw [chars]
  split
  · exact Path.isTrimmed_bracketed hname _
  · exact hname

end Link

namespace Path

variable {first : Link} {rest : List Link}

/-- The text of a path of links. -/
def linked (first : Link) (rest : List Link) : List Char :=
  first.chars ++ rest.flatMap fun l => '.' :: l.chars

/-- The path that is read from a path of links. -/
def ofLinks (first : Link) (rest : List Link) : Path :=
  ⟨String.ofList (linked first rest), first.segment :: rest.map Link.segment⟩

/-- A path of links is read back from its text. -/
theorem parse_linked (hfirst : first.IsWritten) (hrest : ∀ l ∈ rest, l.IsWritten) :
    parse (String.ofList (linked first rest)) = .ok (ofLinks first rest) := by
  have hall : ∀ l ∈ first :: rest, l.IsWritten := List.forall_mem_cons.2 ⟨hfirst, hrest⟩
  have hsegments : List.Forall₂ (fun part s => segment? part = .ok s) ((first :: rest).map Link.chars)
      ((first :: rest).map Link.segment) := by
    rw [List.forall₂_map_left_iff, List.forall₂_map_right_iff]
    exact List.forall₂_same.2 fun l hl => (hall l hl).segment?_eq
  have hunsplit : ∀ w ∈ (first :: rest).map Link.chars, Unsplit w :=
    List.forall_mem_map.2 fun l hl => (hall l hl).unsplit
  have htrimmed : ∀ w ∈ (first :: rest).map Link.chars, IsTrimmed w :=
    List.forall_mem_map.2 fun l hl => (hall l hl).isTrimmed
  have hparse := parse_joined (Link.chars_ne_nil hfirst) hunsplit htrimmed hsegments
  rwa [List.flatMap_map] at hparse

theorem keys_ofLinks (hfirst : first.IsWritten) (hrest : ∀ l ∈ rest, l.IsWritten) :
    (ofLinks first rest).keys = first.keys ++ rest.flatMap Link.keys := by
  rw [keys, ofLinks, List.flatMap_cons, List.flatMap_map, hfirst.keys_segment]
  congr 1
  exact List.flatMap_congr fun l hl => (hrest l hl).keys_segment

theorem parse_bracketed {inner : List Char} (hinner : ∀ c ∈ inner, isNameChar c = true)
    (hne : inner ≠ []) :
    parse (String.ofList (bracketed [] inner)) =
      .ok ⟨String.ofList (bracketed [] inner), [⟨"", some (String.ofList inner)⟩]⟩ := by
  have hname : ∀ c ∈ ([] : List Char), isNameChar c = true := List.forall_mem_nil _
  have hbrackets : ∀ c ∈ inner, c ≠ '[' ∧ c ≠ ']' := fun c hc =>
    ⟨ne_of_isNameChar (hinner c hc) (by decide), ne_of_isNameChar (hinner c hc) (by decide)⟩
  have hsplit := splitPoints_joined (unsplit_bracketed hname hbrackets) (List.forall_mem_nil _)
  rw [List.flatMap_nil, List.append_nil] at hsplit
  exact parse_of_parts (isTrimmed_bracketed (isTrimmed_of_isNameChar hname) inner).trim_eq (List.cons_ne_nil _ _) hsplit
    (.cons (segment?_bracketed_name hname hinner hne) .nil)

end Path

end DynamicSql
