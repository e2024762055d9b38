import DynamicSql.Proofs.Template.Itemized
import DynamicSql.Proofs.Template.Trace

/-!
# Placeholders and their scopes

An occurrence is a placeholder of a template with the scopes of the loops in which it is written. What a
placeholder of the rendered text denotes is such an occurrence: its root is the root of the occurrence
and stands for the same, or it is the variable of the iteration that holds what the root of the
occurrence stands for (`Frame.Denotes`). Rendering goes on from a frame without touching the variables
that are bound in it (`Frame.Grows`), so that what a placeholder denotes never changes, and leaving an
iteration turns the placeholders whose roots are aliases into placeholders of its variables
(`Frame.Denotes.leave`).
-/

namespace DynamicSql

open Lexeme

/-! ### Occurrences -/

/-- The inside of a part that is a token. -/
def Piece.body? : Piece → Option (List Char)
  | .plain _ => none
  | .token body => some body

/-- The insides of the placeholders of a text, in order. -/
def placeholdersIn (s : String) : List (List Char) :=
  (Delimiters.placeholder.pieces false s.toList).filterMap Piece.body?

theorem placeholdersIn_textOf {s : String} {ls : List Lexeme} (h : ∀ l ∈ ls, l.Readable)
    (hs : s.toList = textOf ls) : placeholdersIn s = bodies ls := by
  rw [placeholdersIn, hs, pieces_textOf h, List.filterMap_map, bodies]
  congr 1
  funext l
  cases l <;> rfl

theorem placeholdersIn_token {s : String} {body : List Char} (h : ∀ c ∈ body, c ≠ '\x7d' ∧ c ≠ '\\')
    (hs : s.toList = '#' :: '\x7b' :: (body ++ ['\x7d'])) : placeholdersIn s = [body] := by
  rw [placeholdersIn, hs, Delimiters.pieces_token h, Delimiters.pieces_nil]
  rfl

/-- A placeholder where it is written: its inside, and the scopes of the loops around it. -/
structure Occurrence where
  body : List Char
  scopes : List (Table String Value)

/-- The placeholders of the text that an event writes. -/
def Event.occurrences : Event → List Occurrence
  | .text s scopes => (placeholdersIn s).map (⟨·, scopes⟩)
  | .test _ => []
  | .items _ => []

/-- The placeholders of all texts that rendering a template writes in a frame, in order. -/
def Node.occurrences (n : Node) (f : Frame) : List Occurrence := (n.trace f).flatMap Event.occurrences

/-- What the innermost scope that has the name says. -/
def scopedValue? (scopes : List (Table String Value)) (name : String) : Option Value :=
  scopes.findSome? (·.find? name)

theorem scopedValue?_cons_some {scope : Table String Value} {name : String} {v : Value}
    (h : scope.find? name = some v) (scopes : List (Table String Value)) :
    scopedValue? (scope :: scopes) name = some v := by
  rw [scopedValue?, List.findSome?_cons, h]

theorem scopedValue?_cons_none {scope : Table String Value} {name : String}
    (h : scope.find? name = none) (scopes : List (Table String Value)) :
    scopedValue? (scope :: scopes) name = scopedValue? scopes name := by
  rw [scopedValue?, List.findSome?_cons, h]
  rfl

/-! ### The variables of an iteration -/

namespace Table

variable {κ α : Type} [DecidableEq κ] [LT κ] [DecidableLT κ] {r : κ → κ} {entries : List (κ × α)}
  {k : κ}

theorem find?_foldl_insert_of_ne (h : ∀ e ∈ entries, k ≠ r e.1) (t : Table κ α) :
    (entries.foldl (fun (t : Table κ α) (k, v) => t.insert (r k) v) t).find? k = t.find? k := by
  induction entries generalizing t with
  | nil => rfl
  | cons e entries ih =>
    rw [List.foldl_cons, ih fun e he => h e (.tail _ he)]
    exact find?_insert_of_ne t e.2 (h e (.head _))

theorem exists_find?_foldl_insert (hr : ∀ {k k'}, r k = r k' → k = k') {t u : Table κ α}
    (h : (∃ v, t.find? k = some v ∧ u.find? (r k) = some v) ∨ k ∈ entries.map Prod.fst) :
    ∃ v, (entries.foldl (fun (t : Table κ α) (k, v) => t.insert k v) t).find? k = some v ∧
      (entries.foldl (fun (t : Table κ α) (k, v) => t.insert (r k) v) u).find? (r k) =
        some v := by
  induction entries generalizing t u with
  | nil => exact h.resolve_right nofun
  | cons e entries ih =>
    obtain ⟨k', v⟩ := e
    refine ih ?_
    by_cases hk : k = k'
    · subst hk
      exact .inl ⟨v, find?_insert_self t k v, find?_insert_self u (r k) v⟩
    · have hne : r k ≠ r k' := fun heq => hk (hr heq)
      rw [find?_insert_of_ne t v hk, find?_insert_of_ne u v hne]
      refine h.imp_right fun hmem => ?_
      rcases List.mem_cons.1 hmem with rfl | hmem
      · exact absurd rfl hk
      · exact hmem

end Table

namespace Loop

variable {spec : Loop} {index item : Value} {name : String}

theorem mem_map_names : name ∈ (spec.names index item).map Prod.fst ↔ name ∈ spec.aliases := by
  simp [names, aliases, Function.comp_def, or_comm]

theorem find?_scope_of_not_mem (h : name ∉ spec.aliases) :
    (Table.ofEntries (spec.names index item)).find? name = none := by
  refine Table.find?_foldl_insert_of_ne (r := id) (fun e he => ?_) []
  rintro rfl
  exact h (mem_map_names.1 (List.mem_map_of_mem he))

theorem exists_find?_scope (h : name ∈ spec.aliases) (number : Nat) (bindings : Table String Value) :
    ∃ v, (Table.ofEntries (spec.names index item)).find? name = some v ∧
      (spec.bindIteration number index item bindings).find? (bindingName name number) = some v :=
  Table.exists_find?_foldl_insert (r := (bindingName · number)) (fun h => (bindingName_inj h).1)
    (.inr (mem_map_names.2 h))

theorem find?_bindIteration_of_ne {number : Nat} (h : ∀ base, name ≠ bindingName base number)
    (bindings : Table String Value) :
    (spec.bindIteration number index item bindings).find? name = bindings.find? name :=
  Table.find?_foldl_insert_of_ne (r := (bindingName · number)) (fun e _ => h e.1) bindings

end Loop

/-! ### Frames that go on from others -/

namespace Frame

variable {f g h : Frame} {spec : Loop} {index item : Value}

/-- The frame `g` is what `f` can become: the same scopes are open, and no variable has changed but those
of iterations that are numbered later. -/
structure Grows (f g : Frame) : Prop where
  scopes : g.scopes = f.scopes
  nextNumber : f.nextNumber ≤ g.nextNumber
  bindings : ∀ name, (∀ base number, f.nextNumber ≤ number → name ≠ Loop.bindingName base number) →
    g.bindings.find? name = f.bindings.find? name

theorem Grows.refl (f : Frame) : Grows f f := ⟨rfl, le_rfl, fun _ _ => rfl⟩

theorem Grows.trans (hg : Grows f g) (hh : Grows g h) : Grows f h where
  scopes := hh.scopes.trans hg.scopes
  nextNumber := hg.nextNumber.trans hh.nextNumber
  bindings name hname := by
    rw [hh.bindings name fun base number hnumber => hname base number (hg.nextNumber.trans hnumber)]
    exact hg.bindings name hname

theorem Grows.withText (f : Frame) (s : String) : Grows f { f with text := s } :=
  ⟨rfl, le_rfl, fun _ _ => rfl⟩

theorem Grows.leave (hg : Grows (spec.enter index item f) g) : Grows f (Loop.leave f g) where
  scopes := rfl
  nextNumber := (Nat.le_succ _).trans hg.nextNumber
  bindings name hname := by
    have henter := hg.bindings name fun base number hnumber =>
      hname base number ((Nat.le_succ _).trans hnumber)
    exact henter.trans (Loop.find?_bindIteration_of_ne (fun base => hname base _ le_rfl) f.bindings)

/-! ### What placeholders denote -/

/-- What a placeholder of the text, given by its inside, denotes in a frame: the occurrence it was
written as, whose root is what the placeholder begins with and stands for the same in the scopes of the
frame, or is held by a variable that the placeholder begins with. -/
inductive Denotes (f : Frame) : List Char → Occurrence → Prop
  | free {s : Segment} {rest : List Segment} {scopes : List (Table String Value)} :
      s.IsPlain → (∀ t ∈ rest, t.IsPlain) → ¬ IsVariable s.name →
      scopedValue? scopes s.name = scopedValue? f.scopes s.name →
      Denotes f (Path.written s rest) ⟨Path.written s rest, scopes⟩
  | bound {s : Segment} {rest : List Segment} {scopes : List (Table String Value)} {number : Nat}
      {v : Value} :
      s.IsPlain → (∀ t ∈ rest, t.IsPlain) → number < f.nextNumber →
      f.bindings.find? (Loop.bindingName s.name number) = some v →
      scopedValue? scopes s.name = some v →
      Denotes f (Path.written (Loop.renamed number s) rest) ⟨Path.written s rest, scopes⟩

variable {body : List Char} {o : Occurrence}

theorem Denotes.mono (hd : f.Denotes body o) (hg : Grows f g) : g.Denotes body o := by
  cases hd with
  | free hs hrest hname hscopes => exact .free hs hrest hname (by rw [hg.scopes]; exact hscopes)
  | bound hs hrest hnumber hvariable hscopes =>
    refine .bound hs hrest (hnumber.trans_le hg.nextNumber) ?_ hscopes
    rw [← hvariable]
    refine hg.bindings _ fun base number' hnumber' heq => ?_
    obtain ⟨-, rfl⟩ := Loop.bindingName_inj heq
    omega

/-- What a placeholder in the body of an iteration denotes, it denotes behind the iteration once it has
been pointed at the variables. -/
theorem Denotes.leave (haliases : ∀ name ∈ spec.aliases, IsFreeName name)
    (hg : Grows (spec.enter index item f) g) (hd : g.Denotes body o) :
    (Loop.leave f g).Denotes (Loop.retarget spec.aliases f.nextNumber body) o := by
  have hnames : ∀ name ∈ spec.aliases, IsName name := fun name h => (haliases name h).isName
  cases hd with
  | @free s rest scopes hs hrest hname hscopes =>
    rw [hg.scopes] at hscopes
    rw [Loop.retarget_written hnames hs hrest]
    split
    · -- The root is an alias: the scope and the variable hold the same.
      next hmem =>
      obtain ⟨v, hscope, hvariable⟩ : ∃ v, (Table.ofEntries (spec.names index item)).find? s.name = some v ∧
          (spec.enter index item f).bindings.find? (Loop.bindingName s.name f.nextNumber) = some v :=
        Loop.exists_find?_scope hmem f.nextNumber f.bindings
      have hscoped := scopedValue?_cons_some hscope f.scopes
      refine .bound hs hrest (Nat.lt_of_succ_le hg.nextNumber) ?_ (hscopes.trans hscoped)
      rw [← hvariable]
      refine hg.bindings _ fun base number hnumber heq => ?_
      obtain ⟨-, rfl⟩ := Loop.bindingName_inj heq
      exact Nat.not_succ_le_self _ hnumber
    · next hmem =>
      have hscope : (Table.ofEntries (spec.names index item)).find? s.name = none :=
        Loop.find?_scope_of_not_mem hmem
      exact .free hs hrest hname (hscopes.trans (scopedValue?_cons_none hscope f.scopes))
  | @bound s rest scopes number v hs hrest hnumber hvariable hscopes =>
    -- The root is the variable of an inner loop, which no alias can be.
    rw [Loop.retarget_written hnames (Loop.isPlain_renamed hs number) hrest, if_neg]
    · exact .bound hs hrest hnumber hvariable hscopes
    · exact fun hmem => (haliases _ hmem).not_variable (Loop.isVariable_bindingName _ _)

end Frame

end DynamicSql
