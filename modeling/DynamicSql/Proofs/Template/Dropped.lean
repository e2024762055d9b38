import DynamicSql.Proofs.Text.Blank
import DynamicSql.Proofs.Text.Octets
import DynamicSql.Template.Clause

/-!
# What a clause drops

`Clause.apply_leaves` says what a clause makes of any body. `Clause.Leaves` tells it by the octets of the texts: the
blanks at the beginning go, then the first of the leading words that stands there, in any case of ASCII letters, and
the blanks behind it; from the end goes the first of the trailing words that stands in front of the last blanks. What
is left is written with the clause around it, unless it is blank. A word is found in octets only between characters,
so nothing is cut inside of one.
-/

namespace DynamicSql

open Text

namespace Clause

/-! ### What is left of a body -/

/-- The text begins with the octets of the word, in any case of ASCII letters; `others` are the octets behind them. -/
def Leads (text : List Char) (word : List Char) (others : List UInt8) : Prop :=
  ∃ octetsOfWord, octets text = octetsOfWord ++ others ∧ octetsOfWord.map lowerOctet = (octets word).map lowerOctet

/-- The text ends with the octets of the word, which is not empty, in any case of ASCII letters; `others` are the
octets in front of them. -/
def Ends (text : List Char) (word : List Char) (others : List UInt8) : Prop :=
  word ≠ [] ∧ ∃ octetsOfWord, octets text = others ++ octetsOfWord ∧
    octetsOfWord.map lowerOctet = (octets word).map lowerOctet

/-- The text without the first of the words that can be taken off; all of it, if none can. -/
inductive Without (off : List Char → List UInt8 → Prop) (text : List Char) : List (List Char) → List Char → Prop
  | whole : Without off text [] text
  | first {word rest : List Char} {words : List (List Char)} : off word (octets rest) →
      Without off text (word :: words) rest
  | later {word rest : List Char} {words : List (List Char)} : (∀ others, ¬ off word others) →
      Without off text words rest → Without off text (word :: words) rest

/-- The text without the blanks that it begins with. -/
def Begins (text rest : List Char) : Prop :=
  ∃ blanks, text = blanks ++ rest ∧ allBlank blanks = true ∧ ∀ c ∈ rest.head?, isBlank c = false

/-- The text in front of the blanks that it ends with, and these. -/
def Finishes (text rest blanks : List Char) : Prop :=
  text = rest ++ blanks ∧ allBlank blanks = true ∧ ∀ c ∈ rest.getLast?, isBlank c = false

/-- What a clause leaves of a body, and the blanks that ended the body. -/
def Leaves (c : Clause) (body core trailing : List Char) : Prop :=
  ∃ begun led text inner, Begins body begun ∧ Without (Leads begun) begun (c.dropLead.map String.toList) led ∧
    Begins led text ∧ Finishes text inner trailing ∧
    Without (Ends inner) inner (c.dropTrail.map fun word => trim word.toList) core

/-! ### Blanks -/

theorem begins_iff {text rest : List Char} : Begins text rest ↔ rest = trimStart text := by
  constructor
  · rintro ⟨blanks, rfl, hblanks, hrest⟩
    exact (dropWhile_append_of_head (List.all_eq_true.1 hblanks) hrest).symm
  · rintro rfl
    refine ⟨text.takeWhile isBlank, List.takeWhile_append_dropWhile.symm, ?_, head?_dropWhile isBlank text⟩
    exact List.all_eq_true.2 fun c hc => List.mem_takeWhile_imp hc

theorem finishes_iff {text rest blanks : List Char} :
    Finishes text rest blanks ↔ rest = dropEndWhile isBlank text ∧ blanks = takeEndWhile isBlank text := by
  constructor
  · rintro ⟨rfl, hblanks, hrest⟩
    have hblanks' := List.all_eq_true.1 hblanks
    exact ⟨(dropEndWhile_append_of_last hblanks' hrest).symm, (takeEndWhile_append_of_last hblanks' hrest).symm⟩
  · rintro ⟨rfl, rfl⟩
    refine ⟨(dropEndWhile_append_takeEndWhile isBlank text).symm, ?_, getLast?_dropEndWhile isBlank text⟩
    exact List.all_eq_true.2 fun c hc => of_mem_takeEndWhile hc

/-! ### Words -/

theorem stripHead?_eq_some {word text rest : List Char} : stripHead? word text = some rest ↔
    ∃ front, text = front ++ rest ∧ front.map Char.toLower = word.map Char.toLower := by
  induction word generalizing text with
  | nil => simp [stripHead?]
  | cons w word ih =>
    cases text with
    | nil => simp [stripHead?]
    | cons c text =>
      rw [stripHead?]
      constructor
      · intro h
        split at h
        · next heq =>
          obtain ⟨front, rfl, hfront⟩ := ih.1 h
          exact ⟨c :: front, rfl, by rw [List.map_cons, List.map_cons, hfront, eq_of_beq heq]⟩
        · cases h
      · rintro ⟨front, htext, hfront⟩
        cases front with
        | nil => simp at hfront
        | cons d front =>
          obtain ⟨rfl, rfl⟩ := List.cons.inj htext
          obtain ⟨hhead, hmore⟩ := List.cons.inj hfront
          have heq : eqIgnoreAsciiCase w c = true := beq_iff_eq.2 hhead.symm
          rw [if_pos heq]
          exact ih.2 ⟨front, rfl, hmore⟩

theorem stripEnd?_eq_some {word text rest : List Char} : stripEnd? word text = some rest ↔
    ∃ back, text = rest ++ back ∧ back.map Char.toLower = word.map Char.toLower := by
  rw [stripEnd?, Option.map_eq_some_iff]
  constructor
  · rintro ⟨_, hstrip, rfl⟩
    obtain ⟨front, htext, hfront⟩ := stripHead?_eq_some.1 hstrip
    refine ⟨front.reverse, ?_, ?_⟩
    · rw [← List.reverse_append, ← htext, List.reverse_reverse]
    · rw [List.map_reverse, hfront, ← List.map_reverse, List.reverse_reverse]
  · rintro ⟨back, rfl, hback⟩
    refine ⟨rest.reverse, stripHead?_eq_some.2 ⟨back.reverse, List.reverse_append, ?_⟩, List.reverse_reverse rest⟩
    rw [List.map_reverse, hback, List.map_reverse]

theorem leads_iff {text word : List Char} {others : List UInt8} :
    Leads text word others ↔ ∃ rest, stripHead? word text = some rest ∧ octets rest = others := by
  constructor
  · rintro ⟨octetsOfWord, htext, hword⟩
    obtain ⟨front, rest, rfl, -, hrest, hfront⟩ := exists_of_head_octets htext hword
    exact ⟨rest, stripHead?_eq_some.2 ⟨front, rfl, hfront⟩, hrest⟩
  · rintro ⟨rest, hstrip, rfl⟩
    obtain ⟨front, rfl, hfront⟩ := stripHead?_eq_some.1 hstrip
    refine ⟨octets front, octets_append front rest, ?_⟩
    rw [← octets_map_toLower, hfront, octets_map_toLower]

/-- What comes before a word at the end of a text, if there is a word. -/
def stripWord? (text word : List Char) : Option (List Char) := if word.isEmpty then none else stripEnd? word text

theorem ends_iff {text word : List Char} {others : List UInt8} :
    Ends text word others ↔ ∃ rest, stripWord? text word = some rest ∧ octets rest = others := by
  rw [stripWord?]
  constructor
  · rintro ⟨hne, octetsOfWord, htext, hword⟩
    obtain ⟨rest, back, rfl, hrest, -, hback⟩ := exists_of_end_octets hne htext hword
    rw [if_neg (by simpa using hne)]
    exact ⟨rest, stripEnd?_eq_some.2 ⟨back, rfl, hback⟩, hrest⟩
  · rintro ⟨rest, hstrip, rfl⟩
    split at hstrip
    · cases hstrip
    · next hne =>
      obtain ⟨back, rfl, hback⟩ := stripEnd?_eq_some.1 hstrip
      refine ⟨by simpa using hne, octets back, octets_append rest back, ?_⟩
      rw [← octets_map_toLower, hback, octets_map_toLower]

/-- Words that are taken off by their octets are taken off as texts. -/
theorem without_iff {off : List Char → List UInt8 → Prop} {strip? : List Char → Option (List Char)}
    (h : ∀ word others, off word others ↔ ∃ rest, strip? word = some rest ∧ octets rest = others)
    {text rest : List Char} {words : List (List Char)} :
    Without off text words rest ↔ rest = (words.findSome? strip?).getD text := by
  have hsome : ∀ word rest, off word (octets rest) ↔ strip? word = some rest := by
    intro word rest
    rw [h]
    constructor
    · rintro ⟨rest', hrest', heq⟩
      rwa [← octets_inj.1 heq]
    · exact fun hrest => ⟨rest, hrest, rfl⟩
  induction words with
  | nil =>
    constructor
    · rintro ⟨⟩
      rfl
    · rintro rfl
      exact .whole
  | cons word words ih =>
    cases hstrip : strip? word with
    | none =>
      have hskip : (word :: words).findSome? strip? = words.findSome? strip? := by rw [List.findSome?_cons, hstrip]
      rw [hskip]
      have hoff : ∀ others, ¬ off word others := by
        intro others hoff
        obtain ⟨rest, hrest, -⟩ := (h word others).1 hoff
        cases hrest.symm.trans hstrip
      constructor
      · intro hwithout
        cases hwithout with
        | first hfirst => exact absurd hfirst (hoff _)
        | later _ hlater => exact ih.1 hlater
      · intro hrest
        exact .later hoff (ih.2 hrest)
    | some rest' =>
      have hfound : (word :: words).findSome? strip? = some rest' := by rw [List.findSome?_cons, hstrip]
      rw [hfound, Option.getD_some]
      constructor
      · intro hwithout
        cases hwithout with
        | first hfirst => exact Option.some.inj (((hsome _ _).1 hfirst).symm.trans hstrip)
        | later hoff _ => exact absurd ((hsome _ _).2 hstrip) (hoff _)
      · rintro rfl
        exact .first ((hsome _ _).2 hstrip)

theorem without_leads_iff {text rest : List Char} {words : List (List Char)} :
    Without (Leads text) text words rest ↔ rest = (words.findSome? fun word => stripHead? word text).getD text :=
  @without_iff (Leads text) (fun word => stripHead? word text) (fun _ _ => leads_iff) text rest words

theorem without_ends_iff {text rest : List Char} {words : List (List Char)} :
    Without (Ends text) text words rest ↔ rest = (words.findSome? (stripWord? text)).getD text :=
  @without_iff (Ends text) (stripWord? text) (fun _ _ => ends_iff) text rest words

theorem Without.eq_or_off {off : List Char → List UInt8 → Prop} {text rest : List Char} {words : List (List Char)}
    (h : Without off text words rest) : rest = text ∨ ∃ word, off word (octets rest) := by
  induction h with
  | whole => exact .inl rfl
  | first hoff => exact .inr ⟨_, hoff⟩
  | later _ _ ih => exact ih

/-! ### Clauses -/

variable {c : Clause} {body core trailing : List Char}

theorem withoutLead_eq (c : Clause) (body : List Char) : c.withoutLead body =
    trimStart (((c.dropLead.map String.toList).findSome? fun word =>
      stripHead? word (trimStart body)).getD (trimStart body)) := by
  have htwice : trimStart (trimStart body) = trimStart body :=
    dropWhile_eq_self_of_head (head?_dropWhile isBlank body)
  rw [withoutLead, List.findSome?_map, Function.comp_def]
  split
  · next rest hrest => rw [hrest, Option.getD_some]
  · next hnone => rw [hnone, Option.getD_none, htwice]

theorem withoutTrail_eq (c : Clause) (inner : List Char) : c.withoutTrail inner =
    ((c.dropTrail.map fun word => trim word.toList).findSome? (stripWord? inner)).getD inner := by
  rw [withoutTrail, List.findSome?_map]
  rfl

theorem leaves_iff : c.Leaves body core trailing ↔
    core = c.withoutTrail (dropEndWhile isBlank (c.withoutLead body)) ∧
      trailing = takeEndWhile isBlank (c.withoutLead body) := by
  constructor
  · rintro ⟨begun, led, text, inner, hbegun, hled, htext, hinner, hcore⟩
    obtain rfl := begins_iff.1 hbegun
    obtain rfl := without_leads_iff.1 hled
    obtain rfl := begins_iff.1 htext
    obtain ⟨rfl, rfl⟩ := finishes_iff.1 hinner
    rw [withoutLead_eq, withoutTrail_eq]
    exact ⟨without_ends_iff.1 hcore, rfl⟩
  · rintro ⟨rfl, rfl⟩
    rw [withoutTrail_eq, withoutLead_eq]
    exact ⟨_, _, _, _, begins_iff.2 rfl, without_leads_iff.2 rfl, begins_iff.2 rfl, finishes_iff.2 ⟨rfl, rfl⟩,
      without_ends_iff.2 rfl⟩

theorem Leaves.exists_append (h : c.Leaves body core trailing) :
    ∃ front back, body = front ++ (core ++ (back ++ trailing)) := by
  obtain ⟨begun, led, text, inner, ⟨blanks, rfl, -⟩, hled, ⟨blanks', rfl, -⟩, ⟨rfl, -⟩, hcore⟩ := h
  have hfront : ∃ front, begun = front ++ (blanks' ++ (inner ++ trailing)) := by
    rcases hled.eq_or_off with heq | ⟨word, hoff⟩
    · exact ⟨[], heq.symm⟩
    · obtain ⟨rest, hstrip, hrest⟩ := leads_iff.1 hoff
      obtain ⟨front, htext, -⟩ := stripHead?_eq_some.1 hstrip
      exact ⟨front, by rw [htext, octets_inj.1 hrest]⟩
  have hback : ∃ back, inner = core ++ back := by
    rcases hcore.eq_or_off with heq | ⟨word, hoff⟩
    · exact ⟨[], by rw [heq, List.append_nil]⟩
    · obtain ⟨-, octetsOfWord, hsplit, -⟩ := hoff
      obtain ⟨back, hback, -⟩ := exists_of_octets_prefix hsplit
      exact ⟨back, hback⟩
  obtain ⟨front, rfl⟩ := hfront
  obtain ⟨back, rfl⟩ := hback
  exact ⟨blanks ++ (front ++ blanks'), back, by simp⟩

theorem Leaves.allBlank_core (h : c.Leaves body core trailing) (hbody : allBlank body = true) :
    allBlank core = true := by
  obtain ⟨front, back, rfl⟩ := h.exists_append
  simp only [allBlank, List.all_append, Bool.and_eq_true] at hbody ⊢
  exact hbody.2.1

/-- What a clause writes around a text. -/
def around (c : Clause) (core trailing : List Char) : List Char :=
  (c.lead.map fun s => s.toList ++ [' ']).getD [] ++ core ++ (c.trail.map fun s => ' ' :: s.toList).getD [] ++ trailing

theorem Leaves.apply_eq (h : c.Leaves body core trailing) :
    c.apply body = if allBlank core then [] else c.around core trailing := by
  obtain ⟨hcore, htrailing⟩ := leaves_iff.1 h
  rw [apply, ← hcore, ← htrailing, around]
  by_cases hbody : allBlank body = true
  · rw [hbody, h.allBlank_core hbody]
    rfl
  · rw [Bool.not_eq_true] at hbody
    rw [hbody, Bool.false_or]

theorem Leaves.conditions_head (h : conditions.Leaves body core trailing) : ∀ c ∈ core.head?, isBlank c = false := by
  obtain ⟨begun, led, text, inner, -, -, ⟨blanks, -, -, hhead⟩, ⟨rfl, -⟩, hcore⟩ := h
  -- conditions have no trailing words
  cases hcore with
  | whole =>
    intro c hc
    apply hhead
    rw [List.head?_append, hc]
    rfl

theorem Leaves.apply_eq_nil_iff (h : c.Leaves body core trailing) : c.apply body = [] ↔ allBlank core = true := by
  rw [h.apply_eq]
  constructor
  · intro hnil
    by_contra hblank
    rw [if_neg hblank, around] at hnil
    simp only [List.append_eq_nil_iff] at hnil
    rw [hnil.1.1.2] at hblank
    exact hblank rfl
  · intro hblank
    rw [if_pos hblank]

theorem Leaves.conditions_apply (h : conditions.Leaves body core trailing) (hblank : allBlank core = false) :
    ∃ first rest, conditions.apply body = "WHERE ".toList ++ first :: rest ∧ isBlank first = false := by
  have hne : core ≠ [] := by
    rintro rfl
    cases hblank
  obtain ⟨first, rest, rfl⟩ := List.exists_cons_of_ne_nil hne
  refine ⟨first, rest ++ trailing, ?_, h.conditions_head first rfl⟩
  rw [h.apply_eq, hblank]
  simp [around, conditions, ofLists]

/-- What a clause makes of a body: blanks and at most one word go at either end, and what is left is written with the
clause around it and the last blanks behind it; nothing is written if what is left is blank. Conditions are written
as nothing, or behind a keyword and a blank, beginning with no blank. -/
theorem apply_leaves (c : Clause) (body : List Char) :
    (∃ core trailing,
      (∀ core' trailing', c.Leaves body core' trailing' ↔ core' = core ∧ trailing' = trailing) ∧
      (c.apply body = [] ↔ allBlank core = true) ∧
      (allBlank core = false → c.apply body = c.around core trailing)) ∧
    (conditions.apply body = [] ∨
      ∃ first rest, conditions.apply body = "WHERE ".toList ++ first :: rest ∧ isBlank first = false) := by
  have hleaves : ∀ c : Clause, c.Leaves body _ _ := fun c => leaves_iff.2 ⟨rfl, rfl⟩
  constructor
  · refine ⟨_, _, fun core' trailing' => leaves_iff, (hleaves c).apply_eq_nil_iff, ?_⟩
    intro hblank
    rw [(hleaves c).apply_eq, hblank]
    rfl
  · by_cases hnil : conditions.apply body = []
    · exact .inl hnil
    · right
      apply (hleaves conditions).conditions_apply
      rw [← Bool.not_eq_true, ← (hleaves conditions).apply_eq_nil_iff]
      exact hnil

end Clause

end DynamicSql
