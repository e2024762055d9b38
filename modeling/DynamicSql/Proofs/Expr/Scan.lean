import DynamicSql.Proofs.Expr.Written
import DynamicSql.Proofs.Path.Written

/-!
# Scanning written expressions

The scanner finds the pieces that are laid out in a text (`scan?_of_laid`). Each piece is read off the
text if what stands behind it does not go on with it (`EndsAt`), which is so where neighbours are apart
(`endsAt_of_laid`).
-/

namespace DynamicSql.Expr.Token

/-! ### Classes of characters -/

theorem isWordChar_of_isDigit {c : Char} (h : c.isDigit = true) : isWordChar c = true := by
  have halphanum : c.isAlphanum = true := Bool.or_eq_true_iff.2 (.inr h)
  simp [isWordChar, halphanum]

theorem not_isDigit_of_not_isWordChar {c : Char} (h : isWordChar c = false) : c.isDigit = false := by
  by_contra hdigit
  rw [isWordChar_of_isDigit (Bool.of_not_eq_false hdigit)] at h
  cases h

theorem isWordChar_of_isWordStart {c : Char} (h : isWordStart c = true) : isWordChar c = true := by
  rcases Bool.or_eq_true_iff.1 h with h | hdollar
  · rcases Bool.or_eq_true_iff.1 h with hletter | hunderscore
    · have halphanum : c.isAlphanum = true := Bool.or_eq_true_iff.2 (.inl hletter)
      simp [isWordChar, halphanum]
    · simp [isWordChar, hunderscore]
  · simp [isWordChar, hdollar]

theorem not_isWordStart_of_not_isWordChar {c : Char} (h : isWordChar c = false) :
    isWordStart c = false := by
  by_contra hstart
  rw [isWordChar_of_isWordStart (Bool.of_not_eq_false hstart)] at h
  cases h

theorem not_isDigit_of_isWordStart {c : Char} (h : isWordStart c = true) : c.isDigit = false := by
  by_contra hdigit
  obtain ⟨hlow, hhigh⟩ := Bool.and_eq_true_iff.1 (Bool.of_not_eq_false hdigit)
  have hlow : 48 ≤ c.toNat := of_decide_eq_true hlow
  have hhigh : c.toNat ≤ 57 := of_decide_eq_true hhigh
  rcases Bool.or_eq_true_iff.1 h with h | hdollar
  · rcases Bool.or_eq_true_iff.1 h with hletter | hunderscore
    · rcases Bool.or_eq_true_iff.1 hletter with hupper | hlower
      · obtain ⟨hupper, -⟩ := of_decide_eq_true hupper
        have hupper : 65 ≤ c.toNat := hupper
        omega
      · obtain ⟨hlower, -⟩ := Bool.and_eq_true_iff.1 hlower
        have hlower : 97 ≤ c.toNat := of_decide_eq_true hlower
        omega
    · obtain rfl := eq_of_beq hunderscore
      exact absurd hhigh (by decide)
  · obtain rfl := eq_of_beq hdollar
    exact absurd hlow (by decide)

/-- The characters that symbols begin with. -/
def symbolChars : List Char := ['|', '&', '='] ++ singles

/-- Characters that are no part of a word: blanks, quotation marks and those of symbols. -/
def breaks : List Char := [' ', '\t', '\r', '\n', '\'', '"'] ++ symbolChars

theorem not_isWordChar_of_mem_breaks {c : Char} (h : c ∈ breaks) : isWordChar c = false := by
  have hall : breaks.all (fun c => !isWordChar c) = true := by decide
  simpa using List.all_eq_true.1 hall c h

theorem mem_breaks_of_isSpace {c : Char} (h : isSpace c = true) : c ∈ breaks := by
  simp only [isSpace, Bool.or_eq_true, beq_iff_eq] at h
  rcases h with ((rfl | rfl) | rfl) | rfl <;> decide

theorem not_isSpace_of_isWordChar {c : Char} (h : isWordChar c = true) : isSpace c = false := by
  by_contra hspace
  rw [not_isWordChar_of_mem_breaks (mem_breaks_of_isSpace (Bool.of_not_eq_false hspace))] at h
  cases h

theorem mem_breaks_of_mem_symbolChars {c : Char} (h : c ∈ symbolChars) : c ∈ breaks :=
  List.mem_append_right _ h

theorem not_isSpace_of_mem_symbolChars {c : Char} (h : c ∈ symbolChars) :
    isSpace c = false ∧ ¬(c = '\'' ∨ c = '"') := by
  have hall : symbolChars.all (fun c => !isSpace c && c != '\'' && c != '"') = true := by decide
  simpa [and_assoc] using List.all_eq_true.1 hall c h

theorem mem_symbolChars_of_single {c : Char} (h : c ∈ singles) : c ∈ symbolChars :=
  List.mem_append_right _ h

theorem mem_symbolChars_of_pair {c d : Char} (h : (c, d) ∈ pairs) : c ∈ symbolChars := by
  have hall : pairs.all (fun p => symbolChars.contains p.1) = true := by decide
  simpa using List.all_eq_true.1 hall (c, d) h

theorem mem_breaks_of_mark {mark : Char} (h : mark = '\'' ∨ mark = '"') : mark ∈ breaks := by
  rcases h with rfl | rfl <;> decide

/-! ### Reading one piece -/

/-- The text behind a piece does not go on with it. -/
def EndsAt (t : Token) (s : List Char) : Prop :=
  match t with
  | word _ => ∀ c ∈ s.head?, isWordChar c = false
  | number _ none => ∀ c ∈ s.head?, c.isDigit = false ∧
      (c = '.' → ∀ d ∈ s.tail.head?, d.isDigit = false)
  | number _ (some _) => ∀ c ∈ s.head?, c.isDigit = false
  | string _ => True
  | symbol x => ∀ c ∈ s.head?, ∀ d, x = String.ofList [d] → (d, c) ∉ pairs

variable {rest : List Char} {mark : Char}

theorem read?_word {c : Char} {s : List Char} (hc : isWordStart c = true)
    (hs : ∀ d ∈ s, isWordChar d = true) (hrest : ∀ d ∈ rest.head?, isWordChar d = false) :
    read? c (s ++ rest) = some (word (String.ofList (c :: s)), rest) := by
  rw [read?, if_pos hc, takeWhile_append_of_head hs hrest, dropWhile_append_of_head hs hrest]

theorem readNumber_whole {s : List Char} (hs : ∀ d ∈ s, d.isDigit = true)
    (hrest : (number s none).EndsAt rest) : readNumber (s ++ rest) = (number s none, rest) := by
  have hdigit : ∀ d ∈ rest.head?, d.isDigit = false := fun d hd => (hrest d hd).1
  rw [readNumber]
  simp only [takeWhile_append_of_head hs hdigit, dropWhile_append_of_head hs hdigit]
  split
  · next d more =>
    have hd := (hrest '.' rfl).2 rfl d rfl
    rw [if_neg (by simp [hd])]
  · rfl

theorem readNumber_fraction {s places : List Char} (hs : ∀ d ∈ s, d.isDigit = true)
    (hne : places ≠ []) (hplaces : ∀ d ∈ places, d.isDigit = true)
    (hrest : ∀ d ∈ rest.head?, d.isDigit = false) :
    readNumber (s ++ '.' :: (places ++ rest)) = (number s (some places), rest) := by
  obtain ⟨d, ds, rfl⟩ := List.exists_cons_of_ne_nil hne
  have hpoint : ∀ c ∈ ('.' :: d :: (ds ++ rest)).head?, c.isDigit = false := by
    rintro c ⟨⟩
    rfl
  rw [List.cons_append, readNumber]
  simp only [takeWhile_append_of_head hs hpoint, dropWhile_append_of_head hs hpoint,
    if_pos (hplaces d (.head _))]
  rw [← List.cons_append, takeWhile_append_of_head hplaces hrest,
    dropWhile_append_of_head hplaces hrest]

theorem stringBody?_escaped (hmark : mark = '\'' ∨ mark = '"') (s : List Char) :
    stringBody? mark (s.flatMap (escaped mark) ++ mark :: rest) = some (s, rest) := by
  have hslash : mark ≠ '\\' := by rcases hmark with rfl | rfl <;> decide
  induction s with
  | nil =>
    rw [List.flatMap_nil, List.nil_append, stringBody?, if_pos rfl]
    exact fun c rest h => absurd h hslash
  | cons c s ih =>
    rw [List.flatMap_cons, List.append_assoc, escaped]
    by_cases hc : c = mark ∨ c = '\\'
    · have hunescape : unescape c = c := by
        rcases hc with rfl | rfl
        · rcases hmark with rfl | rfl <;> rfl
        · rfl
      rw [if_pos hc, List.cons_append, List.cons_append, List.nil_append, stringBody?, ih, hunescape]
      rfl
    · obtain ⟨hne, hslash⟩ := not_or.1 hc
      rw [if_neg hc, List.cons_append, List.nil_append, stringBody?, if_neg hne, ih]
      · rfl
      · exact fun c rest h => absurd h hslash

theorem read?_symbol {c : Char} (hc : c ∈ symbolChars) (s : List Char) :
    read? c s = readSymbol? c s := by
  have hword := not_isWordChar_of_mem_breaks (mem_breaks_of_mem_symbolChars hc)
  have hstart := not_isWordStart_of_not_isWordChar hword
  have hdigit := not_isDigit_of_not_isWordChar hword
  rw [read?, if_neg (by simp [hstart]), if_neg (by simp [hdigit]),
    if_neg (not_isSpace_of_mem_symbolChars hc).2]

theorem read?_number {c : Char} (hc : c.isDigit = true) (s : List Char) :
    read? c s = some (readNumber (c :: s)) := by
  have hstart : isWordStart c = false := by
    by_contra hstart
    rw [not_isDigit_of_isWordStart (Bool.of_not_eq_false hstart)] at hc
    cases hc
  rw [read?, if_neg (by simp [hstart]), if_pos hc]

theorem read?_string (hmark : mark = '\'' ∨ mark = '"') (s : String) :
    read? mark (s.toList.flatMap (escaped mark) ++ mark :: rest) = some (string s, rest) := by
  have hword := not_isWordChar_of_mem_breaks (mem_breaks_of_mark hmark)
  have hstart := not_isWordStart_of_not_isWordChar hword
  have hdigit := not_isDigit_of_not_isWordChar hword
  rw [read?, if_neg (by simp [hstart]), if_neg (by simp [hdigit]), if_pos hmark,
    stringBody?_escaped hmark]
  exact congrArg (fun s => some (string s, rest)) String.ofList_toList

theorem not_isSpace_of_mark (hmark : mark = '\'' ∨ mark = '"') : isSpace mark = false := by
  rcases hmark with rfl | rfl <;> rfl

theorem read?_text {t : Token} (hvalid : t.IsValid) (hmark : mark = '\'' ∨ mark = '"')
    (hend : t.EndsAt rest) :
    ∃ c s, t.text mark ++ rest = c :: s ∧ isSpace c = false ∧ read? c s = some (t, rest) := by
  cases hvalid with
  | word h =>
    obtain ⟨hw, hc, hs⟩ := h
    refine ⟨_, _, by rw [text, hw, List.cons_append], ?_, ?_⟩
    · exact not_isSpace_of_isWordChar (isWordChar_of_isWordStart hc)
    · rw [read?_word hc hs hend, ← hw, String.ofList_toList]
  | whole h =>
    obtain ⟨c, s, rfl⟩ := List.exists_cons_of_ne_nil h.ne_nil
    have hc := h.digits c (.head _)
    refine ⟨c, s ++ rest, rfl, not_isSpace_of_isWordChar (isWordChar_of_isDigit hc), ?_⟩
    rw [read?_number hc, ← List.cons_append, readNumber_whole h.digits hend]
  | @fraction _ _ s places hs hplaces =>
    obtain ⟨c, s, rfl⟩ := List.exists_cons_of_ne_nil hs.ne_nil
    have hc := hs.digits c (.head _)
    refine ⟨c, s ++ '.' :: (places ++ rest), by simp [text], ?_, ?_⟩
    · exact not_isSpace_of_isWordChar (isWordChar_of_isDigit hc)
    · rw [read?_number hc, ← List.cons_append,
        readNumber_fraction hs.digits hplaces.ne_nil hplaces.digits hend]
  | string s =>
    refine ⟨mark, s.toList.flatMap (escaped mark) ++ mark :: rest, by simp [text], ?_, ?_⟩
    · exact not_isSpace_of_mark hmark
    · exact read?_string hmark s
  | @pair c d h =>
    have hc := mem_symbolChars_of_pair h
    refine ⟨c, d :: rest, by simp [text], (not_isSpace_of_mem_symbolChars hc).1, ?_⟩
    rw [read?_symbol hc, readSymbol?, if_pos h]
  | @single c h =>
    have hc := mem_symbolChars_of_single h
    refine ⟨c, rest, by simp [text], (not_isSpace_of_mem_symbolChars hc).1, ?_⟩
    rw [read?_symbol hc]
    cases rest with
    | nil => rw [readSymbol?, if_pos h]
    | cons d rest => rw [readSymbol?, if_neg (hend d rfl c rfl), if_pos h]

/-! ### Neighbours -/

/-- A character that the text of a piece begins with. -/
inductive Begins : Token → Char → Prop
  | word {w : String} {c : Char} (h : isWordStart c = true) : Begins (word w) c
  | number {whole : List Char} {fraction : Option (List Char)} {c : Char} (h : c.isDigit = true) :
      Begins (number whole fraction) c
  | string (s : String) {mark : Char} (h : mark = '\'' ∨ mark = '"') : Begins (string s) mark
  | pair {c d : Char} (h : (c, d) ∈ pairs) : Begins (symbol (String.ofList [c, d])) c
  | single {c : Char} (h : c ∈ singles) : Begins (symbol (String.ofList [c])) c

theorem begins_text {t : Token} (hvalid : t.IsValid) (hmark : mark = '\'' ∨ mark = '"') :
    ∃ c s, t.text mark = c :: s ∧ Begins t c := by
  cases hvalid with
  | word h =>
    obtain ⟨hw, hc, -⟩ := h
    exact ⟨_, _, hw, .word hc⟩
  | whole h =>
    obtain ⟨c, s, rfl⟩ := List.exists_cons_of_ne_nil h.ne_nil
    exact ⟨c, s, rfl, .number (h.digits c (.head _))⟩
  | @fraction _ _ _ places h =>
    obtain ⟨c, s, rfl⟩ := List.exists_cons_of_ne_nil h.ne_nil
    exact ⟨c, s ++ '.' :: places, rfl, .number (h.digits c (.head _))⟩
  | string s => exact ⟨_, _, rfl, .string s hmark⟩
  | @pair c d h => exact ⟨c, [d], String.toList_ofList, .pair h⟩
  | @single c h => exact ⟨c, [], String.toList_ofList, .single h⟩

theorem Begins.isWordChar {t : Token} {c : Char} (h : Begins t c) (hc : isWordChar c = true) :
    (∃ w, t = Token.word w) ∨ ∃ whole fraction, t = Token.number whole fraction := by
  have hbreaks : c ∉ breaks := by
    intro hmem
    rw [not_isWordChar_of_mem_breaks hmem] at hc
    cases hc
  cases h with
  | word => exact .inl ⟨_, rfl⟩
  | number => exact .inr ⟨_, _, rfl⟩
  | string s hmark => exact absurd (mem_breaks_of_mark hmark) hbreaks
  | pair h => exact absurd (mem_breaks_of_mem_symbolChars (mem_symbolChars_of_pair h)) hbreaks
  | single h => exact absurd (mem_breaks_of_mem_symbolChars (mem_symbolChars_of_single h)) hbreaks

theorem Begins.not_isSpace {t : Token} {c : Char} (h : Begins t c) : isSpace c = false := by
  cases h with
  | word h => exact not_isSpace_of_isWordChar (isWordChar_of_isWordStart h)
  | number h => exact not_isSpace_of_isWordChar (isWordChar_of_isDigit h)
  | string s hmark => exact not_isSpace_of_mark hmark
  | pair h => exact (not_isSpace_of_mem_symbolChars (mem_symbolChars_of_pair h)).1
  | single h => exact (not_isSpace_of_mem_symbolChars (mem_symbolChars_of_single h)).1

/-- A blank is due at the head of a text, if `t` stands before it and the pieces `ts` are laid out
there. -/
def BlankDue (t : Token) (ts : List Token) (rest : List Char) : Prop :=
  ∀ u ∈ ts.head?, (t.isOperatorWord || u.isOperatorWord) = true → ∃ c ∈ rest.head?, isSpace c = true

variable {t : Token} {ts : List Token}

theorem next_of_laid (hlaid : Laid ts rest) (hvalid : ∀ u ∈ ts, u.IsValid)
    (hapart : ∀ u ∈ ts.head?, Apart t u) (hblank : BlankDue t ts rest) :
    ∀ c ∈ rest.head?, isSpace c = true ∨ ∃ u ∈ ts.head?, Begins u c ∧ t.joins u = false := by
  intro c hc
  cases hlaid with
  | nil hgap => exact .inl (hgap c (List.mem_of_mem_head? hc))
  | @cons u us mark gap r hgap hmark _ _ =>
    cases gap with
    | cons d gap =>
      obtain rfl : d = c := by simpa using hc
      exact .inl (hgap d (.head _))
    | nil =>
      obtain ⟨d, s, htext, hbegins⟩ := begins_text (hvalid u (.head _)) hmark
      rw [List.nil_append, htext] at hc hblank
      obtain rfl : d = c := by simpa using hc
      refine .inr ⟨u, rfl, hbegins, ?_⟩
      by_contra hjoins
      obtain ⟨e, he, hspace⟩ := hblank u rfl (hapart u rfl (Bool.of_not_eq_false hjoins))
      obtain rfl : d = e := by simpa using he
      rw [hbegins.not_isSpace] at hspace
      cases hspace

theorem laid_tail_of_point (hlaid : Laid (symbol "." :: ts) rest) (hpoint : '.' ∈ rest.head?) :
    Laid ts rest.tail ∧ BlankDue (symbol ".") ts rest.tail := by
  generalize hus : symbol "." :: ts = us at hlaid
  cases hlaid with
  | nil => cases hus
  | @cons u us mark gap r hgap hmark hblank hrest =>
    cases hus
    cases gap with
    | cons d gap =>
      obtain rfl : d = '.' := by simpa using hpoint
      exact absurd (hgap '.' (.head _)) (by decide)
    | nil => exact ⟨hrest, hblank⟩

theorem not_next_of_laid {p : Char → Bool} (hspace : ∀ c, isSpace c = true → p c = false)
    (hjoins : ∀ u c, Begins u c → p c = true → t.joins u = true) (hlaid : Laid ts rest)
    (hvalid : ∀ u ∈ ts, u.IsValid) (hapart : ∀ u ∈ ts.head?, Apart t u)
    (hblank : BlankDue t ts rest) : ∀ c ∈ rest.head?, p c = false := by
  intro c hc
  obtain hc | ⟨u, -, hbegins, hapart⟩ := next_of_laid hlaid hvalid hapart hblank c hc
  · exact hspace c hc
  · by_contra hp
    rw [hjoins u c hbegins (Bool.of_not_eq_false hp)] at hapart
    cases hapart

theorem not_isWordChar_of_isSpace {c : Char} (h : isSpace c = true) : isWordChar c = false :=
  not_isWordChar_of_mem_breaks (mem_breaks_of_isSpace h)

theorem joins_word {u : Token} {c : Char} (w : String) (hbegins : Begins u c)
    (hc : isWordChar c = true) : (word w).joins u = true := by
  obtain ⟨v, rfl⟩ | ⟨whole, fraction, rfl⟩ := hbegins.isWordChar hc <;> rfl

theorem joins_number {u : Token} {c : Char} (whole : List Char) (fraction : Option (List Char))
    (hbegins : Begins u c) (hc : isWordChar c = true) : (number whole fraction).joins u = true := by
  obtain ⟨v, rfl⟩ | ⟨whole, fraction, rfl⟩ := hbegins.isWordChar hc <;> rfl

theorem joins_point {u : Token} {c : Char} (hbegins : Begins u c) (hc : c.isDigit = true) :
    (symbol ".").joins u = true := by
  obtain ⟨w, rfl⟩ | ⟨whole, fraction, rfl⟩ := hbegins.isWordChar (isWordChar_of_isDigit hc)
  · cases hbegins with
    | word h =>
      rw [not_isDigit_of_isWordStart h] at hc
      cases hc
  · rfl

theorem eq_point_of_begins {u : Token} (h : Begins u '.') : u = symbol "." := by
  generalize hc : '.' = c at h
  cases h with
  | word h => subst hc; exact absurd h (by decide)
  | number h => subst hc; exact absurd h (by decide)
  | string s hmark => subst hc; exact absurd hmark (by decide)
  | pair h => subst hc; simp [pairs] at h
  | single h => subst hc; rfl

theorem joins_of_pair {d c : Char} {u : Token} (hd : d ∈ singles) (hpair : (d, c) ∈ pairs)
    (hbegins : Begins u c) : (symbol (String.ofList [d])).joins u = true := by
  -- the only symbols that go on with a single character end in an equals sign
  have hall : pairs.all (fun p => !singles.contains p.1 || (p.2 == '=' && ['!', '<', '>'].contains p.1)) =
    true := by decide
  have heq : c = '=' ∧ d ∈ ['!', '<', '>'] := by simpa [hd] using List.all_eq_true.1 hall (d, c) hpair
  obtain ⟨rfl, hd⟩ := heq
  have hu : u = symbol "==" := by
    generalize hc : '=' = c at hbegins
    cases hbegins with
    | word h => subst hc; exact absurd h (by decide)
    | number h => subst hc; exact absurd h (by decide)
    | string s hmark => subst hc; exact absurd hmark (by decide)
    | pair h =>
      subst hc
      obtain rfl : _ = '=' := by simpa [pairs] using h
      rfl
    | single h => subst hc; exact absurd h (by decide)
  rw [hu]
  simp only [List.mem_cons, List.not_mem_nil, or_false] at hd
  rcases hd with rfl | rfl | rfl <;> rfl

theorem endsAt_of_laid (ht : t.IsValid) (hlaid : Laid ts rest) (hvalid : ∀ u ∈ ts, u.IsValid)
    (hchain : (t :: ts).IsChain Apart) (hblank : BlankDue t ts rest) : t.EndsAt rest := by
  obtain ⟨hapart, htail⟩ := List.isChain_cons.1 hchain
  cases ht with
  | word =>
    exact not_next_of_laid (fun c => not_isWordChar_of_isSpace) (fun u c => joins_word _) hlaid hvalid
      hapart hblank
  | whole =>
    intro c hc
    have hword := not_next_of_laid (fun c => not_isWordChar_of_isSpace) (fun u c => joins_number _ _)
      hlaid hvalid hapart hblank c hc
    refine ⟨not_isDigit_of_not_isWordChar hword, ?_⟩
    rintro rfl
    -- the piece behind the number is a point, and no number stands behind that
    obtain hspace | ⟨u, hu, hbegins, -⟩ := next_of_laid hlaid hvalid hapart hblank '.' hc
    · exact absurd hspace (by decide)
    obtain rfl := eq_point_of_begins hbegins
    obtain ⟨us, rfl⟩ := List.head?_eq_some_iff.1 hu
    obtain ⟨hrest, hdue⟩ := laid_tail_of_point hlaid hc
    exact not_next_of_laid (fun c h => not_isDigit_of_not_isWordChar (not_isWordChar_of_isSpace h))
      (fun u c => joins_point) hrest (fun u hu => hvalid u (.tail _ hu)) (List.isChain_cons.1 htail).1 hdue
  | fraction =>
    intro c hc
    exact not_isDigit_of_not_isWordChar (not_next_of_laid (fun c => not_isWordChar_of_isSpace)
      (fun u c => joins_number _ _) hlaid hvalid hapart hblank c hc)
  | string => trivial
  | @pair c d h =>
    intro e he b hb
    exact absurd (congrArg String.length hb) (by simp)
  | @single c h =>
    intro e he b hb hpair
    obtain rfl : c = b := by simpa using hb
    obtain hspace | ⟨u, hu, hbegins, hjoins⟩ := next_of_laid hlaid hvalid hapart hblank e he
    · have hall : pairs.all (fun p => !isSpace p.2) = true := by decide
      have hnot := List.all_eq_true.1 hall (c, e) hpair
      rw [hspace] at hnot
      cases hnot
    · rw [joins_of_pair h hpair hbegins] at hjoins
      cases hjoins

/-! ### Scanning -/

/-- The pieces of a text, with any bound that is no less than its length. -/
def Scans (s : List Char) (ts : List Token) : Prop :=
  ∀ fuel, s.length ≤ fuel → scanFuel? fuel s = some ts

theorem Scans.nil : Scans [] [] := fun fuel _ => by cases fuel <;> rfl

theorem Scans.blank {gap s : List Char} (hgap : ∀ c ∈ gap, isSpace c = true) (h : Scans s ts) :
    Scans (gap ++ s) ts := by
  induction gap with
  | nil => exact h
  | cons c gap ih =>
    intro fuel hfuel
    have ih := ih fun d hd => hgap d (.tail _ hd)
    cases fuel with
    | zero => exact absurd hfuel (Nat.not_succ_le_zero _)
    | succ fuel =>
      rw [List.cons_append, scanFuel?, if_pos (hgap c (.head _))]
      exact ih fuel (Nat.le_of_succ_le_succ hfuel)

theorem Scans.text (ht : t.IsValid) (hmark : mark = '\'' ∨ mark = '"') (hend : t.EndsAt rest)
    (h : Scans rest ts) : Scans (t.text mark ++ rest) (t :: ts) := by
  obtain ⟨c, s, htext, hspace, hread⟩ := read?_text ht hmark hend
  obtain ⟨d, r, hd, -⟩ := begins_text ht hmark
  intro fuel hfuel
  have hlength : rest.length + 1 ≤ fuel := by
    rw [hd, List.length_append, List.length_cons] at hfuel
    omega
  obtain ⟨fuel, rfl⟩ : ∃ k, fuel = k + 1 := Nat.exists_eq_succ_of_ne_zero (by omega)
  rw [htext, scanFuel?, if_neg (by simp [hspace]), hread]
  show (scanFuel? fuel rest).bind _ = _
  rw [h fuel (by omega)]
  rfl

theorem scans_of_laid {s : List Char} (hlaid : Laid ts s) (hvalid : ∀ t ∈ ts, t.IsValid)
    (hchain : ts.IsChain Apart) : Scans s ts := by
  induction hlaid with
  | nil hgap => simpa using Scans.nil.blank hgap
  | cons hgap hmark hblank hrest ih =>
    have hts := fun t ht => hvalid t (.tail _ ht)
    have hend := endsAt_of_laid (hvalid _ (.head _)) hrest hts hchain hblank
    exact (ih hts (List.isChain_cons.1 hchain).2).text (hvalid _ (.head _)) hmark hend |>.blank hgap

/-- The scanner finds the pieces that are laid out in a text. -/
theorem scan?_of_laid {s : List Char} (hlaid : Laid ts s) (hrun : IsRun ts) : scan? s = some ts :=
  scans_of_laid hlaid hrun.valid hrun.chain s.length le_rfl

end DynamicSql.Expr.Token
