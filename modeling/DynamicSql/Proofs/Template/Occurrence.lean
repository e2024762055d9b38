import DynamicSql.Proofs.Template.Scan
import Mathlib.Data.List.Infix

/-!
# Tokens by the occurrences of their marks

Where the tokens of a text lie can be told from the places at which the marks occur in it (`Marks.Scans`): an
opening mark behind the symbol of escape is plain text; any other one opens a token that runs to the first closing
mark which is not escaped inside of it; and if there is none, all the rest is plain. This is said for lists of any
symbols, so that it can be read of characters and of octets. A text has one such cut at most (`Marks.Scans.unique`),
and the pieces of a text make it up (`Delimiters.scans_cut`).
-/

namespace DynamicSql

variable {α : Type}

/-! ### Occurrences -/

/-- The mark occurs in the text behind `before` and in front of `after`, and nowhere further to the left. -/
structure FirstAt (mark before after text : List α) : Prop where
  split : text = before ++ (mark ++ after)
  first : ∀ before' after', text = before' ++ (mark ++ after') → before <+: before'

variable {mark before after before' after' text : List α}

theorem FirstAt.unique (h : FirstAt mark before after text) (h' : FirstAt mark before' after' text) :
    before = before' ∧ after = after' := by
  have hbefore : before = before' := by
    apply (h.first _ _ h'.split).eq_of_length
    apply Nat.le_antisymm
    · exact (h.first _ _ h'.split).length_le
    · exact (h'.first _ _ h.split).length_le
  subst hbefore
  have hsplit := h.split.symm.trans h'.split
  exact ⟨rfl, List.append_cancel_left (List.append_cancel_left hsplit)⟩

theorem firstAt_append (mark after : List α) : FirstAt mark [] after (mark ++ after) :=
  ⟨rfl, fun _ _ _ => List.nil_prefix⟩

theorem FirstAt.cons {c : α} (h : FirstAt mark before after text)
    (hc : ∀ rest, c :: text ≠ mark ++ rest) : FirstAt mark (c :: before) after (c :: text) := by
  refine ⟨by rw [h.split]; rfl, ?_⟩
  intro before' after' hsplit
  cases before' with
  | nil => exact absurd hsplit (hc after')
  | cons d before' =>
    obtain ⟨rfl, htext⟩ := List.cons.inj hsplit
    exact List.prefix_cons_inj c |>.2 (h.first before' after' htext)

theorem FirstAt.tail {c d : α} (h : FirstAt mark (c :: before) after (d :: text)) :
    c = d ∧ FirstAt mark before after text := by
  obtain ⟨rfl, htext⟩ := List.cons.inj h.split
  refine ⟨rfl, htext, ?_⟩
  intro before' after' hsplit
  have hfirst := h.first (d :: before') after' (by rw [hsplit]; rfl)
  exact List.prefix_cons_inj d |>.1 hfirst

/-! ### Tokens -/

/-- The marks that open and close a token, and the symbol that escapes them. -/
structure Marks (α : Type) where
  opening : List α
  closing : List α
  escape : α

/-- A text cut at its tokens: each with the plain text in front of it and with its inside, and the plain text behind
the last. -/
structure Cut (α : Type) where
  tokens : List (List α × List α)
  tail : List α

namespace Cut

/-- The cut with plain text in front. -/
def behind (plain : List α) : Cut α → Cut α
  | ⟨[], tail⟩ => ⟨[], plain ++ tail⟩
  | ⟨(front, body) :: tokens, tail⟩ => ⟨(plain ++ front, body) :: tokens, tail⟩

/-- The cut with a token in front, behind plain text. -/
def withToken (plain body : List α) (cut : Cut α) : Cut α := ⟨(plain, body) :: cut.tokens, cut.tail⟩

/-- The cut with its texts written in other symbols. -/
def map {β : Type} (f : List α → List β) (cut : Cut α) : Cut β :=
  ⟨cut.tokens.map fun token => (f token.1, f token.2), f cut.tail⟩

theorem behind_behind (s t : List α) (cut : Cut α) : (cut.behind t).behind s = cut.behind (s ++ t) := by
  obtain ⟨_ | ⟨⟨front, body⟩, tokens⟩, tail⟩ := cut <;> simp [behind]

theorem map_behind {β : Type} {f : List α → List β} (hf : ∀ s t, f (s ++ t) = f s ++ f t) (s : List α) (cut : Cut α) :
    (cut.behind s).map f = (cut.map f).behind (f s) := by
  obtain ⟨_ | ⟨⟨front, body⟩, tokens⟩, tail⟩ := cut <;> simp [behind, map, hf]

end Cut

namespace Marks

variable {m : Marks α} {keep : Bool} {past body rest body' rest' : List α} {cut cut' : Cut α}

/-- The inside of a token at the head of the text runs to the first closing mark that is not escaped: neither
directly behind the opening mark, nor directly behind an escaped closing mark, is there an escape to look at. An
escaped closing mark stands for itself. -/
inductive Inside (m : Marks α) : List α → List α → List α → Prop
  | closed {text body rest : List α} : FirstAt m.closing body rest text → body.getLast? ≠ some m.escape →
      Inside m text body rest
  | escaped {text front back body rest : List α} : FirstAt m.closing (front ++ [m.escape]) back text →
      Inside m back body rest → Inside m text (front ++ (m.closing ++ body)) rest

/-- The cut of a text, given what stands before it. Escapes of opening marks are kept or not. There is no rule for an
opening mark whose escape has been passed already, so a text with such a mark in front has no cut. -/
inductive Scans (m : Marks α) (keep : Bool) : List α → List α → Cut α → Prop
  | plain {past text : List α} : (∀ before after, text ≠ before ++ (m.opening ++ after)) →
      Scans m keep past text ⟨[], text⟩
  | escaped {past text before after : List α} {cut : Cut α} :
      FirstAt m.opening (before ++ [m.escape]) after text →
      Scans m keep (past ++ (before ++ [m.escape] ++ m.opening)) after cut →
      Scans m keep past text (cut.behind ((if keep then before ++ [m.escape] else before) ++ m.opening))
  | token {past text before after body rest past' : List α} {cut : Cut α} :
      FirstAt m.opening before after text → (past ++ before).getLast? ≠ some m.escape →
      Inside m after body rest → past ++ text = past' ++ rest → Scans m keep past' rest cut →
      Scans m keep past text (cut.withToken before body)
  | unclosed {past text before after : List α} : FirstAt m.opening before after text →
      (past ++ before).getLast? ≠ some m.escape → (∀ body rest, ¬ Inside m after body rest) →
      Scans m keep past text ⟨[], text⟩

theorem Inside.unique (h : Inside m text body rest) (h' : Inside m text body' rest') :
    body = body' ∧ rest = rest' := by
  induction h generalizing body' rest' with
  | closed hfirst hlast =>
    cases h' with
    | closed hfirst' hlast' => exact hfirst.unique hfirst'
    | escaped hfirst' hrest' =>
      obtain ⟨rfl, -⟩ := hfirst.unique hfirst'
      exact absurd List.getLast?_concat hlast
  | escaped hfirst hrest ih =>
    cases h' with
    | closed hfirst' hlast' =>
      obtain ⟨rfl, -⟩ := hfirst.unique hfirst'
      exact absurd List.getLast?_concat hlast'
    | escaped hfirst' hrest' =>
      obtain ⟨hfront, rfl⟩ := hfirst.unique hfirst'
      obtain ⟨rfl, rfl⟩ := ih hrest'
      rw [List.append_cancel_right hfront]
      exact ⟨rfl, rfl⟩

theorem Inside.cons {c : α} (hc : ∀ rest, c :: text ≠ m.closing ++ rest)
    (hescape : c = m.escape → ∀ rest, text ≠ m.closing ++ rest) (h : Inside m text body rest) :
    Inside m (c :: text) (c :: body) rest := by
  cases h with
  | closed hfirst hlast =>
    apply Inside.closed (hfirst.cons hc)
    intro hlast'
    cases body with
    | nil => exact hescape (Option.some.inj hlast') _ hfirst.split
    | cons d body => exact hlast (by simpa using hlast')
  | @escaped _ front back body _ hfirst hrest => exact @Inside.escaped _ m _ (c :: front) _ _ _ (hfirst.cons hc) hrest

theorem Inside.exists_append (h : Inside m text body rest) : ∃ inner, text = inner ++ (m.closing ++ rest) := by
  induction h with
  | closed hfirst _ => exact ⟨_, hfirst.split⟩
  | @escaped text front back body rest hfirst _ ih =>
    obtain ⟨inner, rfl⟩ := ih
    exact ⟨front ++ [m.escape] ++ (m.closing ++ inner), by rw [hfirst.split]; simp⟩

/-- A text is cut in one way at most. -/
theorem Scans.unique (h : Scans m keep past text cut) (h' : Scans m keep past text cut') : cut = cut' := by
  induction h generalizing cut' with
  | plain hnone =>
    cases h' with
    | plain _ => rfl
    | escaped hfirst' _ => exact absurd hfirst'.split (hnone _ _)
    | token hfirst' _ _ _ _ => exact absurd hfirst'.split (hnone _ _)
    | unclosed _ _ _ => rfl
  | @escaped past text before after cut hfirst _ ih =>
    have hlast : (past ++ (before ++ [m.escape])).getLast? = some m.escape := by simp
    cases h' with
    | plain hnone' => exact absurd hfirst.split (hnone' _ _)
    | escaped hfirst' hrest' =>
      obtain ⟨hbefore, rfl⟩ := hfirst.unique hfirst'
      obtain rfl := List.append_cancel_right hbefore
      rw [ih hrest']
    | token hfirst' hlast' _ _ _ =>
      obtain ⟨rfl, -⟩ := hfirst.unique hfirst'
      exact absurd hlast hlast'
    | unclosed hfirst' hlast' _ =>
      obtain ⟨rfl, -⟩ := hfirst.unique hfirst'
      exact absurd hlast hlast'
  | token hfirst hlast hinside hpast _ ih =>
    cases h' with
    | plain hnone' => exact absurd hfirst.split (hnone' _ _)
    | escaped hfirst' _ =>
      obtain ⟨rfl, -⟩ := hfirst.unique hfirst'
      exact absurd (by simp) hlast
    | token hfirst' _ hinside' hpast' hrest' =>
      obtain ⟨rfl, rfl⟩ := hfirst.unique hfirst'
      obtain ⟨rfl, rfl⟩ := hinside.unique hinside'
      obtain rfl := List.append_cancel_right (hpast.symm.trans hpast')
      rw [ih hrest']
    | unclosed hfirst' _ hnone' =>
      obtain ⟨rfl, rfl⟩ := hfirst.unique hfirst'
      exact absurd hinside (hnone' _ _)
  | unclosed hfirst hlast hnone =>
    cases h' with
    | plain _ => rfl
    | escaped hfirst' _ =>
      obtain ⟨rfl, -⟩ := hfirst.unique hfirst'
      exact absurd (by simp) hlast
    | token hfirst' _ hinside' _ _ =>
      obtain ⟨rfl, rfl⟩ := hfirst.unique hfirst'
      exact absurd hinside' (hnone _ _)
    | unclosed _ _ _ => rfl

theorem Scans.cons {c : α} (hc : ∀ rest, c :: text ≠ m.opening ++ rest)
    (h : Scans m keep (past ++ [c]) text cut) : Scans m keep past (c :: text) (cut.behind [c]) := by
  have hmove : ∀ s, past ++ [c] ++ s = past ++ (c :: s) := by simp
  cases h with
  | plain hnone =>
    apply Scans.plain
    intro before after hsplit
    cases before with
    | nil => exact hc after hsplit
    | cons d before => exact hnone before after (List.cons.inj hsplit).2
  | @escaped _ _ before after cut hfirst hrest =>
    rw [hmove] at hrest
    have hescaped := @Scans.escaped _ m keep past (c :: text) (c :: before) after cut (hfirst.cons hc) hrest
    rw [Cut.behind_behind]
    cases keep <;> exact hescaped
  | token hfirst hlast hinside hpast hrest =>
    rw [hmove] at hlast hpast
    exact Scans.token (hfirst.cons hc) hlast hinside hpast hrest
  | unclosed hfirst hlast hnone =>
    rw [hmove] at hlast
    exact Scans.unclosed (hfirst.cons hc) hlast hnone

end Marks

/-! ### Pieces -/

theorem Delimiter.strip?_eq_some {d : Delimiter} {s rest : List Char} :
    d.strip? s = some rest ↔ s = d.chars ++ rest := by
  cases s with
  | nil => simp [strip?, chars]
  | cons c s =>
    rw [strip?, chars]
    constructor
    · intro h
      split at h
      · next hprefix =>
        obtain ⟨rfl, hmore⟩ := hprefix
        obtain ⟨t, rfl⟩ := List.isPrefixOf_iff_prefix.1 hmore
        simpa using h
      · simp at h
    · intro h
      obtain ⟨rfl, rfl⟩ := List.cons.inj h
      simp

theorem Delimiter.strip?_eq_none {d : Delimiter} {s : List Char} :
    d.strip? s = none ↔ ∀ rest, s ≠ d.chars ++ rest := by
  rw [Option.eq_none_iff_forall_ne_some]
  exact forall_congr' fun rest => not_congr strip?_eq_some

theorem Delimiter.firstAt_of_strip? {d : Delimiter} {s rest : List Char} (h : d.strip? s = some rest) :
    FirstAt d.chars [] rest s := by
  rw [strip?_eq_some.1 h]
  exact firstAt_append d.chars rest

namespace Delimiters

open Marks

variable {d : Delimiters} {keep : Bool}

/-- The marks of delimiters; a backslash escapes them. -/
def marks (d : Delimiters) : Marks Char := ⟨d.opening.chars, d.closing.chars, '\\'⟩

/-- The cut that pieces make up. -/
def cutOf : List Piece → Cut Char
  | [] => ⟨[], []⟩
  | .plain s :: pieces => (cutOf pieces).behind s
  | .token body :: pieces => (cutOf pieces).withToken [] body

/-- The text cut at its tokens. -/
def cut (d : Delimiters) (keepEscapes : Bool) (text : List Char) : Cut Char := cutOf (d.pieces keepEscapes text)

/-! The inside of a token, by the first closing delimiter behind its beginning. -/

theorem body?_of_firstAt_cons {c : Char} {before after text : List Char}
    (h : FirstAt d.closing.chars (c :: before) after (c :: text)) (hescape : before = [] → c ≠ '\\') :
    d.body? (c :: text) = (d.body? text).map fun (body, rest) => (c :: body, rest) := by
  have hhead : d.closing.strip? (c :: text) = none := by
    rw [Delimiter.strip?_eq_none]
    intro rest hrest
    have hprefix := h.first [] rest hrest
    simp at hprefix
  rw [body?_cons, hhead]
  dsimp only
  split
  · next hc =>
    have hnext : d.closing.strip? text = none := by
      rw [Delimiter.strip?_eq_none]
      rintro rest rfl
      have hprefix := h.first [c] rest rfl
      rw [List.prefix_cons_inj, List.prefix_nil] at hprefix
      exact hescape hprefix hc
    rw [hnext]
  · rfl

theorem body?_of_firstAt {body rest text : List Char} (h : FirstAt d.closing.chars body rest text)
    (hlast : body.getLast? ≠ some '\\') : d.body? text = some (body, rest) := by
  induction body generalizing text with
  | nil =>
    have hstrip := Delimiter.strip?_eq_some.2 h.split
    rw [h.split, List.nil_append, Delimiter.chars] at hstrip ⊢
    rw [List.cons_append] at hstrip ⊢
    rw [body?_cons, hstrip]
  | cons c body ih =>
    obtain ⟨d', text, rfl⟩ : ∃ d' text', text = d' :: text' := ⟨c, _, h.split⟩
    obtain ⟨rfl, htail⟩ := h.tail
    have hescape : body = [] → c ≠ '\\' := by
      rintro rfl rfl
      exact hlast rfl
    have hlast' : body.getLast? ≠ some '\\' := by
      cases body with
      | nil => simp
      | cons e body => simpa using hlast
    rw [body?_of_firstAt_cons h hescape, ih htail hlast']
    rfl

theorem body?_of_firstAt_escaped {front back text : List Char}
    (h : FirstAt d.closing.chars (front ++ ['\\']) back text) :
    d.body? text = (d.body? back).map fun (body, rest) => (front ++ (d.closing.chars ++ body), rest) := by
  induction front generalizing text with
  | nil =>
    obtain ⟨d', text, rfl⟩ : ∃ d' text', text = d' :: text' := ⟨'\\', _, h.split⟩
    obtain ⟨rfl, htail⟩ := h.tail
    have hhead : d.closing.strip? ('\\' :: text) = none := by
      rw [Delimiter.strip?_eq_none]
      intro rest hrest
      have hprefix := h.first [] rest hrest
      simp at hprefix
    have hstrip := Delimiter.strip?_eq_some.2 htail.split
    rw [body?_cons, hhead]
    dsimp only
    rw [if_pos rfl, hstrip]
    rfl
  | cons c front ih =>
    obtain ⟨d', text, rfl⟩ : ∃ d' text', text = d' :: text' := ⟨c, _, h.split⟩
    obtain ⟨rfl, htail⟩ := h.tail
    rw [body?_of_firstAt_cons h (by simp), ih htail]
    cases d.body? back <;> rfl

/-- Reading the inside of a token finds it where the closing delimiters say that it is. -/
theorem inside_iff {text body rest : List Char} : d.marks.Inside text body rest ↔ d.body? text = some (body, rest) := by
  constructor
  · intro h
    induction h with
    | closed hfirst hlast => exact body?_of_firstAt hfirst hlast
    | escaped hfirst _ ih =>
      rw [body?_of_firstAt_escaped hfirst, ih]
      rfl
  · intro h
    fun_induction body? d text generalizing body rest with
    | case1 => simp at h
    | case2 c t r hr =>
      obtain ⟨rfl, rfl⟩ := Prod.mk.inj (Option.some.inj h)
      exact .closed (Delimiter.firstAt_of_strip? hr) (by simp)
    | case3 t r hr hhead ih =>
      obtain ⟨⟨b, r'⟩, hb, he⟩ := Option.map_eq_some_iff.1 h
      obtain ⟨rfl, rfl⟩ := Prod.mk.inj he
      have hfirst' := (Delimiter.firstAt_of_strip? hr).cons (Delimiter.strip?_eq_none.1 hhead)
      exact @Inside.escaped _ d.marks _ [] _ _ _ hfirst' (ih hb)
    | case4 t hnext hhead ih =>
      obtain ⟨⟨b, r'⟩, hb, he⟩ := Option.map_eq_some_iff.1 h
      obtain ⟨rfl, rfl⟩ := Prod.mk.inj he
      exact (ih hb).cons (Delimiter.strip?_eq_none.1 hhead) fun _ => Delimiter.strip?_eq_none.1 hnext
    | case5 c t hhead hc ih =>
      obtain ⟨⟨b, r'⟩, hb, he⟩ := Option.map_eq_some_iff.1 h
      obtain ⟨rfl, rfl⟩ := Prod.mk.inj he
      exact (ih hb).cons (Delimiter.strip?_eq_none.1 hhead) fun hescape => absurd hescape hc

/-- No delimiter holds the symbol that escapes it. -/
def IsUnescaping (d : Delimiters) : Prop := '\\' ∉ d.opening.chars ∧ '\\' ∉ d.closing.chars

theorem getLast?_append_chars {delimiter : Delimiter} (h : '\\' ∉ delimiter.chars) (s : List Char) :
    (s ++ delimiter.chars).getLast? ≠ some '\\' := by
  have hne : delimiter.chars ≠ [] := List.cons_ne_nil _ _
  intro hlast
  rw [List.getLast?_append_of_ne_nil s hne] at hlast
  exact h (List.mem_of_getLast? hlast)

theorem unescaped_of_strip? {past text inner : List Char}
    (hpast : past.getLast? = some '\\' → d.opening.strip? text = none) (hopen : d.opening.strip? text = some inner) :
    (past ++ []).getLast? ≠ some '\\' := by
  intro hlast
  rw [List.append_nil] at hlast
  simp [hpast hlast] at hopen

/-- The pieces of a text make up its cut. A backslash in front of the text matters where an opening delimiter
begins it. -/
theorem scans_cut (hd : d.IsUnescaping) (keep : Bool) (past text : List Char)
    (hpast : past.getLast? = some '\\' → d.opening.strip? text = none) :
    d.marks.Scans keep past text (d.cut keep text) := by
  rw [cut]
  fun_induction pieces d keep text generalizing past with
  | case1 =>
    apply Scans.plain
    intro before after hsplit
    simp [marks, Delimiter.chars] at hsplit
  | case2 c text inner hopen body rest hbody ih =>
    have hinside := inside_iff.2 hbody
    obtain ⟨inner', hinner⟩ := hinside.exists_append
    have hlast := unescaped_of_strip? hpast hopen
    -- what stands before the rest ends with the closing delimiter of the token
    have hrest := ih (past ++ d.opening.chars ++ inner' ++ d.closing.chars) fun hlast' =>
      absurd hlast' (getLast?_append_chars hd.2 _)
    refine Scans.token (Delimiter.firstAt_of_strip? hopen) hlast hinside ?_ hrest
    rw [Delimiter.strip?_eq_some.1 hopen, hinner]
    simp [marks]
  | case3 c text inner hopen hbody =>
    have hlast := unescaped_of_strip? hpast hopen
    have hunclosed := @Scans.unclosed _ d.marks keep past _ [] inner (Delimiter.firstAt_of_strip? hopen) hlast
    simp only [cutOf, Cut.behind, List.append_nil]
    apply hunclosed
    intro body rest hinside
    simp [inside_iff.1 hinside] at hbody
  | case4 text inner hopen hhead ih =>
    have hfirst' := (Delimiter.firstAt_of_strip? hopen).cons (Delimiter.strip?_eq_none.1 hhead)
    have hrest := ih (past ++ ([] ++ ['\\'] ++ d.opening.chars)) fun hlast =>
      absurd hlast (by rw [← List.append_assoc]; exact getLast?_append_chars hd.1 _)
    have hescaped := @Scans.escaped _ d.marks keep past _ [] inner _ hfirst' hrest
    cases keep <;> exact hescaped
  | case5 text hopen hhead ih =>
    have hrest := ih (past ++ ['\\']) fun _ => hopen
    exact hrest.cons (Delimiter.strip?_eq_none.1 hhead)
  | case6 c text hhead hc ih =>
    have hrest := ih (past ++ [c]) fun hlast => absurd (by simpa using hlast) hc
    exact hrest.cons (Delimiter.strip?_eq_none.1 hhead)

end Delimiters

end DynamicSql
