import DynamicSql.Proofs.Template.Scan
import DynamicSql.Proofs.Template.Variable

/-!
# Texts of iterations, scanned again

The text of an iteration is scanned once for each loop around it, and once more when its placeholders are
resolved. Scanning takes the escapes out of the inside of a placeholder, and writing the placeholder puts them
back: both are inverse to each other as long as the inside does not end in a backslash, which would escape the
closing delimiter (`Delimiters.body?_escaped`, `Delimiters.eq_escaped_of_body?`). So the pieces of the text of an
iteration are the pieces of the body, with the insides of the placeholders pointed at the variables
(`Loop.pieces_itemize`), at every level of nested loops.
-/

namespace DynamicSql

open Text

/-! ### Insides of placeholders -/

/-- The inside of a placeholder as it is written: closing delimiters are escaped. -/
def escapedBody (body : List Char) : List Char := body.flatMap fun c => if c = '\x7d' then ['\\', c] else [c]

theorem escapedBody_close (body : List Char) : escapedBody ('\x7d' :: body) = '\\' :: '\x7d' :: escapedBody body := rfl

theorem escapedBody_cons {c : Char} (h : c ≠ '\x7d') (body : List Char) :
    escapedBody (c :: body) = c :: escapedBody body := by
  rw [escapedBody, List.flatMap_cons, if_neg h]
  rfl

/-- A closing delimiter behind the inside of a placeholder closes it, and is not escaped. -/
def Closable (body : List Char) : Prop := body.getLast? ≠ some '\\'

theorem closable_nil : Closable [] := Option.some_ne_none _ ∘ Eq.symm

theorem Closable.tail {c : Char} {body : List Char} (h : Closable (c :: body)) : Closable body := by
  cases body with
  | nil => exact closable_nil
  | cons d body => exact h

namespace Delimiters

theorem body?_close (s : List Char) : placeholder.body? ('\x7d' :: s) = some ([], s) := by
  rw [body?_cons]
  rfl

theorem body?_escapedClose (s : List Char) :
    placeholder.body? ('\\' :: '\x7d' :: s) = (placeholder.body? s).map fun (body, rest) => ('\x7d' :: body, rest) := by
  rw [body?_cons]
  rfl

theorem strip?_closing_of_head {s : List Char} (h : s.head? ≠ some '\x7d') : placeholder.closing.strip? s = none := by
  cases s with
  | nil => rfl
  | cons c s => exact strip?_closing_of_ne (fun hc => h (congrArg some hc)) s

theorem body?_char {c : Char} {s : List Char} (hclose : c ≠ '\x7d') (hescape : c = '\\' → s.head? ≠ some '\x7d') :
    placeholder.body? (c :: s) = (placeholder.body? s).map fun (body, rest) => (c :: body, rest) := by
  rw [body?_cons, strip?_closing_of_ne hclose]
  dsimp only
  split
  · next hc => rw [strip?_closing_of_head (hescape hc)]
  · rfl

theorem body?_escaped {body : List Char} (h : Closable body) (s : List Char) :
    placeholder.body? (escapedBody body ++ '\x7d' :: s) = some (body, s) := by
  induction body with
  | nil => exact body?_close s
  | cons c body ih =>
    have ih := ih h.tail
    by_cases hc : c = '\x7d'
    · subst hc
      rw [escapedBody_close, List.cons_append, List.cons_append, body?_escapedClose, ih]
      rfl
    · have hescape : c = '\\' → (escapedBody body ++ '\x7d' :: s).head? ≠ some '\x7d' := by
        rintro rfl
        cases body with
        | nil => exact absurd rfl h
        | cons d body =>
          by_cases hd : d = '\x7d'
          · subst hd
            exact fun heq => absurd (Option.some.inj heq) (by decide)
          · rw [escapedBody_cons hd]
            exact fun heq => hd (Option.some.inj heq)
      rw [escapedBody_cons hc, List.cons_append, body?_char hc hescape, ih]
      rfl

theorem strip?_closing_eq_some {s rest : List Char} :
    placeholder.closing.strip? s = some rest ↔ s = '\x7d' :: rest := by
  have hne : none ≠ some rest := (Option.some_ne_none rest).symm
  cases s with
  | nil => exact iff_of_false hne (List.cons_ne_nil _ rest).symm
  | cons c s =>
    by_cases hc : c = '\x7d'
    · subst hc
      exact ⟨fun h => congrArg _ (Option.some.inj h), fun h => congrArg some (List.cons.inj h).2⟩
    · rw [strip?_closing_of_ne hc]
      exact iff_of_false hne fun h => hc (List.cons.inj h).1

/-- What is read as the inside of a placeholder was written as such. -/
theorem eq_escaped_of_body? {s body rest : List Char} (h : placeholder.body? s = some (body, rest)) :
    s = escapedBody body ++ '\x7d' :: rest ∧ Closable body := by
  fun_induction body? placeholder s generalizing body rest with
  | case1 => cases h
  | case2 c t r hr =>
    cases h
    exact ⟨strip?_closing_eq_some.1 hr, closable_nil⟩
  | case3 t r hr hclose ih =>
    obtain ⟨⟨b, r'⟩, hb, he⟩ := Option.map_eq_some_iff.1 h
    obtain ⟨rfl, hclosable⟩ := ih hb
    cases he
    refine ⟨?_, ?_⟩
    · rw [strip?_closing_eq_some.1 hr]
      rfl
    · cases b with
      | nil => exact fun heq => absurd (Option.some.inj heq) (by decide)
      | cons d b => exact hclosable
  | case4 t hescape hclose ih =>
    obtain ⟨⟨b, r'⟩, hb, he⟩ := Option.map_eq_some_iff.1 h
    obtain ⟨rfl, hclosable⟩ := ih hb
    cases he
    refine ⟨rfl, ?_⟩
    cases b with
    | nil => cases (strip?_closing_eq_some.2 rfl).symm.trans hescape
    | cons d b => exact hclosable
  | case5 c t hclose hne ih =>
    obtain ⟨⟨b, r'⟩, hb, he⟩ := Option.map_eq_some_iff.1 h
    obtain ⟨rfl, hclosable⟩ := ih hb
    cases he
    have hc : c ≠ '\x7d' := by
      rintro rfl
      cases hclose
    refine ⟨by rw [escapedBody_cons hc]; rfl, ?_⟩
    cases b with
    | nil => exact fun heq => hne (Option.some.inj heq)
    | cons d b => exact hclosable

end Delimiters

/-! ### Texts of pieces -/

/-- A piece with the inside of a token replaced. -/
def Piece.map (g : List Char → List Char) : Piece → Piece
  | plain s => .plain s
  | token body => .token (g body)

/-- The text of a piece: a token is written as a placeholder. -/
def Piece.written : Piece → List Char
  | plain s => s
  | token body => Loop.placeholderAround body

namespace Delimiters

theorem placeholderAround_append (body s : List Char) :
    Loop.placeholderAround body ++ s = '#' :: '\x7b' :: (escapedBody body ++ '\x7d' :: s) := by
  show '#' :: '\x7b' :: ((escapedBody body ++ ['\x7d']) ++ s) = _
  rw [List.append_assoc]
  rfl

theorem strip?_opening_eq_some {s rest : List Char} :
    placeholder.opening.strip? s = some rest ↔ s = '#' :: '\x7b' :: rest := by
  have hne : none ≠ some rest := (Option.some_ne_none rest).symm
  cases s with
  | nil => exact iff_of_false hne (List.cons_ne_nil _ _).symm
  | cons c s =>
    by_cases hc : c = '#'
    · subst hc
      cases s with
      | nil => exact iff_of_false hne fun h => List.cons_ne_nil _ rest (List.cons.inj h).2.symm
      | cons d s =>
        by_cases hd : d = '\x7b'
        · subst hd
          refine ⟨fun h => ?_, fun h => ?_⟩
          · obtain rfl := Option.some.inj h
            rfl
          · cases h
            rfl
        · have hnone : placeholder.opening.strip? ('#' :: d :: s) = none := by
            simp [placeholder, Delimiter.strip?, Ne.symm hd]
          rw [hnone]
          exact iff_of_false hne fun h => hd (List.cons.inj (List.cons.inj h).2).1
    · rw [strip?_opening_of_ne hc]
      exact iff_of_false hne fun h => hc (List.cons.inj h).1

/-! The pieces of a text, by what it begins with. -/

theorem pieces_open {s body rest : List Char} (h : placeholder.body? s = some (body, rest)) (keep : Bool) :
    placeholder.pieces keep ('#' :: '\x7b' :: s) = .token body :: placeholder.pieces keep rest := by
  rw [pieces_cons, strip?_opening_eq_some.2 rfl]
  dsimp only
  rw [h]

theorem pieces_unclosed {s : List Char} (h : placeholder.body? s = none) (keep : Bool) :
    placeholder.pieces keep ('#' :: '\x7b' :: s) = [.plain ('#' :: '\x7b' :: s)] := by
  rw [pieces_cons, strip?_opening_eq_some.2 rfl]
  dsimp only
  rw [h]

theorem pieces_escapedOpen (keep : Bool) (s : List Char) :
    placeholder.pieces keep ('\\' :: '#' :: '\x7b' :: s) =
      .plain ((if keep then ['\\'] else []) ++ ['#', '\x7b']) :: placeholder.pieces keep s := by
  rw [pieces_cons, strip?_opening_of_ne (by decide)]
  dsimp only
  rw [if_pos rfl, strip?_opening_eq_some.2 rfl]
  rfl

theorem pieces_other {c : Char} {s : List Char} (hopen : placeholder.opening.strip? (c :: s) = none)
    (hescape : c = '\\' → placeholder.opening.strip? s = none) (keep : Bool) :
    placeholder.pieces keep (c :: s) = .plain [c] :: placeholder.pieces keep s := by
  rw [pieces_cons, hopen]
  dsimp only
  split
  · next hc => rw [hescape hc]
  · rfl

/-- The text with the insides of its placeholders replaced. -/
def rewritten (g : List Char → List Char) (s : List Char) : List Char :=
  (placeholder.pieces true s).flatMap fun piece => (piece.map g).written

variable {g : List Char → List Char}

theorem rewritten_cons_plain {c : Char} {s : List Char} (hopen : placeholder.opening.strip? (c :: s) = none)
    (hescape : c = '\\' → placeholder.opening.strip? s = none) :
    rewritten g (c :: s) = c :: rewritten g s := by
  rw [rewritten, pieces_other hopen hescape]
  rfl

theorem head?_rewritten (g : List Char → List Char) (s : List Char) : (rewritten g s).head? = s.head? := by
  rw [rewritten]
  fun_cases pieces placeholder true s with
  | case1 => rfl
  | case2 c s inner hopen body rest hbody =>
    rw [strip?_opening_eq_some.1 hopen]
    rfl
  | case3 => rfl
  | case4 => rfl
  | case5 => rfl
  | case6 => rfl

theorem strip?_opening_rewritten {s : List Char} (h : placeholder.opening.strip? s = none) :
    placeholder.opening.strip? (rewritten g s) = none := by
  rw [Option.eq_none_iff_forall_ne_some]
  intro r hr
  have hopen := strip?_opening_eq_some.1 hr
  have hhead : s.head? = some '#' := by rw [← head?_rewritten g, hopen]; rfl
  obtain ⟨t, rfl⟩ := List.head?_eq_some_iff.1 hhead
  rw [rewritten_cons_plain h fun hc => absurd hc (by decide)] at hopen
  have hnext : t.head? = some '\x7b' := by rw [← head?_rewritten g, (List.cons.inj hopen).2]; rfl
  obtain ⟨u, rfl⟩ := List.head?_eq_some_iff.1 hnext
  cases (strip?_opening_eq_some.2 rfl).symm.trans h

/-- Replacing the insides of placeholders replaces the insides of the tokens and nothing else, if the new ones can
be closed where the old ones can. -/
theorem pieces_rewritten (hg : ∀ body, Closable body → Closable (g body)) (keep : Bool) (s : List Char) :
    placeholder.pieces keep (rewritten g s) = (placeholder.pieces keep s).map (Piece.map g) := by
  have hother : ∀ {c : Char} {s : List Char}, placeholder.opening.strip? (c :: s) = none →
      (c = '\\' → placeholder.opening.strip? s = none) →
      placeholder.pieces keep (rewritten g s) = (placeholder.pieces keep s).map (Piece.map g) →
      placeholder.pieces keep (rewritten g (c :: s)) = (placeholder.pieces keep (c :: s)).map (Piece.map g) := by
    intro c s hopen hescape ih
    have hopen' := strip?_opening_rewritten (g := g) hopen
    rw [rewritten_cons_plain hopen hescape] at hopen' ⊢
    rw [pieces_other hopen' fun hc => strip?_opening_rewritten (hescape hc), pieces_other hopen hescape, ih]
    rfl
  fun_induction pieces placeholder true s with
  | case1 =>
    rw [rewritten, pieces_nil, pieces_nil]
    exact pieces_nil placeholder keep
  | case2 c s inner hopen body rest hbody ih =>
    obtain ⟨-, hclosable⟩ := eq_escaped_of_body? hbody
    rw [strip?_opening_eq_some.1 hopen, pieces_open hbody, rewritten, pieces_open hbody, List.flatMap_cons]
    show placeholder.pieces keep (Loop.placeholderAround (g body) ++ rewritten g rest) = _
    rw [placeholderAround_append, pieces_open (body?_escaped (hg body hclosable) _), ih]
    rfl
  | case3 c s inner hopen hbody =>
    have hself : rewritten g ('#' :: '\x7b' :: inner) = '#' :: '\x7b' :: inner := by
      rw [rewritten, pieces_unclosed hbody]
      exact List.append_nil _
    rw [strip?_opening_eq_some.1 hopen, hself, pieces_unclosed hbody]
    rfl
  | case4 s inner hopen hnone ih =>
    rw [strip?_opening_eq_some.1 hopen, pieces_escapedOpen, rewritten, pieces_escapedOpen]
    show placeholder.pieces keep ('\\' :: '#' :: '\x7b' :: rewritten g inner) = _
    rw [pieces_escapedOpen, ih]
    rfl
  | case5 s hopen hnone ih => exact hother hnone (fun _ => hopen) ih
  | case6 c s hopen hne ih => exact hother hopen (fun hc => absurd hc hne) ih

theorem flatMap_written_pieces (s : List Char) : (placeholder.pieces true s).flatMap Piece.written = s := by
  fun_induction pieces placeholder true s with
  | case1 => rfl
  | case2 c s inner hopen body rest hbody ih =>
    rw [List.flatMap_cons, ih, strip?_opening_eq_some.1 hopen, (eq_escaped_of_body? hbody).1]
    exact placeholderAround_append body rest
  | case3 c s inner hopen hbody => exact List.append_nil _
  | case4 s inner hopen hnone ih =>
    rw [List.flatMap_cons, ih, strip?_opening_eq_some.1 hopen]
    rfl
  | case5 s hopen hnone ih => exact congrArg _ ih
  | case6 c s hopen hne ih => exact congrArg _ ih

end Delimiters

/-! ### Texts of iterations -/

namespace Loop

open Delimiters

variable {aliases : List String} {number : Nat} {name : String} {body rest : List Char}

theorem itemize_eq_rewritten (aliases : List String) (number : Nat) (text : List Char) :
    itemize aliases number text = rewritten (retarget aliases number) text := by
  have hfilled : ∀ piece : Piece, piece.filled (fun body => placeholderAround (retarget aliases number body)) =
      (piece.map (retarget aliases number)).written := by
    intro piece
    cases piece <;> rfl
  rw [rewritten, ← List.flatMap_congr fun piece _ => hfilled piece]
  exact replace_eq_flatMap placeholder true _ text

/-- The character ends a name in a placeholder. -/
def EndsName (c : Char) : Prop := c = '.' ∨ c = ',' ∨ c = ':' ∨ c = '[' ∨ isBlank c = true

/-- The inside of a placeholder begins with the name, which ends there, and `rest` is what follows it. All blanks
in front are left aside. -/
structure LeadsWith (name : String) (body rest : List Char) : Prop where
  split : ∃ blanks, body = blanks ++ (name.toList ++ rest) ∧ ∀ c ∈ blanks, isBlank c = true
  trimmed : ∀ c ∈ (name.toList ++ rest).head?, isBlank c = false
  ended : ∀ c ∈ rest.head?, EndsName c

theorem afterAlias?_eq_some : afterAlias? name body = some rest ↔
    trimStart body = name.toList ++ rest ∧ ∀ c ∈ rest.head?, EndsName c := by
  rw [afterAlias?]
  constructor
  · intro h
    split at h
    · next hprefix =>
      have happend := List.prefix_iff_eq_append.1 (List.isPrefixOf_iff_prefix.1 hprefix)
      rw [← happend]
      cases hdrop : (trimStart body).drop name.toList.length with
      | nil =>
        rw [hdrop] at h
        cases h
        exact ⟨rfl, fun c hc => absurd hc (Option.not_mem_none c)⟩
      | cons c t =>
        rw [hdrop] at h
        dsimp only at h
        split at h
        · next hends =>
          cases h
          refine ⟨rfl, fun d hd => ?_⟩
          cases hd
          exact hends
        · cases h
    · cases h
  · rintro ⟨htrim, hends⟩
    rw [htrim, if_pos (List.isPrefixOf_iff_prefix.2 (List.prefix_append _ _)), List.drop_left]
    cases rest with
    | nil => rfl
    | cons c t => exact if_pos (hends c rfl)

theorem afterAlias?_eq_some_iff : afterAlias? name body = some rest ↔ LeadsWith name body rest := by
  rw [afterAlias?_eq_some]
  constructor
  · rintro ⟨htrim, hends⟩
    refine ⟨⟨body.takeWhile isBlank, ?_, fun c hc => List.mem_takeWhile_imp hc⟩, fun c hc => ?_, hends⟩
    · rw [← htrim]
      exact List.takeWhile_append_dropWhile.symm
    · rw [← htrim] at hc
      have hhead := List.head?_dropWhile_not isBlank body
      rw [show (body.dropWhile isBlank).head? = some c from hc] at hhead
      exact hhead
  · rintro ⟨⟨blanks, rfl, hblanks⟩, htrimmed, hends⟩
    refine ⟨?_, hends⟩
    rw [trimStart, List.dropWhile_append_of_pos hblanks]
    cases ht : name.toList ++ rest with
    | nil => rfl
    | cons c t =>
      have hc := htrimmed c (by rw [ht]; rfl)
      exact List.dropWhile_cons_of_neg (by simp [hc])

/-- What the inside of a placeholder becomes in an iteration: an alias that it begins with, and the blanks in
front of it, are replaced by the variable of the alias. The item comes before the index. -/
inductive Points (spec : Loop) (number : Nat) (body : List Char) : List Char → Prop
  | item {name : String} {rest : List Char} : spec.item = some name → LeadsWith name body rest →
      Points spec number body ((bindingName name number).toList ++ rest)
  | index {name : String} {rest : List Char} : (∀ item ∈ spec.item, ∀ rest, ¬ LeadsWith item body rest) →
      spec.index = some name → LeadsWith name body rest →
      Points spec number body ((bindingName name number).toList ++ rest)
  | other : (∀ name ∈ spec.aliases, ∀ rest, ¬ LeadsWith name body rest) → Points spec number body body

theorem retarget_cons_of_leadsWith (h : LeadsWith name body rest) (aliases : List String) (number : Nat) :
    retarget (name :: aliases) number body = (bindingName name number).toList ++ rest := by
  rw [retarget, List.findSome?_cons, afterAlias?_eq_some_iff.2 h]
  rfl

theorem afterAlias?_eq_none (h : ∀ rest, ¬ LeadsWith name body rest) : afterAlias? name body = none :=
  Option.eq_none_iff_forall_ne_some.2 fun rest hrest => h rest (afterAlias?_eq_some_iff.1 hrest)

theorem retarget_cons_of_not (h : ∀ rest, ¬ LeadsWith name body rest) (aliases : List String) (number : Nat) :
    retarget (name :: aliases) number body = retarget aliases number body := by
  rw [retarget, List.findSome?_cons, afterAlias?_eq_none h]
  rfl

theorem retarget_eq_self (h : ∀ name ∈ aliases, ∀ rest, ¬ LeadsWith name body rest) (number : Nat) :
    retarget aliases number body = body := by
  induction aliases with
  | nil => rfl
  | cons name aliases ih =>
    obtain ⟨hname, haliases⟩ := List.forall_mem_cons.1 h
    rw [retarget_cons_of_not hname, ih haliases]

theorem points_retarget (spec : Loop) (number : Nat) (body : List Char) :
    spec.Points number body (retarget spec.aliases number body) := by
  by_cases hitem : ∃ name ∈ spec.item, ∃ rest, LeadsWith name body rest
  · obtain ⟨name, hname, rest, hleads⟩ := hitem
    have haliases : spec.aliases = name :: spec.index.toList := by
      rw [aliases, hname]
      rfl
    rw [haliases, retarget_cons_of_leadsWith hleads]
    exact .item hname hleads
  have hitem : ∀ name ∈ spec.item, ∀ rest, ¬ LeadsWith name body rest :=
    fun name hname rest hleads => hitem ⟨name, hname, rest, hleads⟩
  by_cases hindex : ∃ name ∈ spec.index, ∃ rest, LeadsWith name body rest
  · obtain ⟨name, hname, rest, hleads⟩ := hindex
    have hretarget : retarget spec.aliases number body = (bindingName name number).toList ++ rest := by
      rw [aliases, hname]
      cases hspec : spec.item with
      | none => exact retarget_cons_of_leadsWith hleads [] number
      | some item =>
        exact (retarget_cons_of_not (hitem item hspec) [name] number).trans
          (retarget_cons_of_leadsWith hleads [] number)
    rw [hretarget]
    exact .index hitem hname hleads
  · have hnone : ∀ name ∈ spec.aliases, ∀ rest, ¬ LeadsWith name body rest := by
      intro name hname rest hleads
      rcases List.mem_append.1 hname with hname | hname
      · exact hitem name (Option.mem_toList.1 hname) rest hleads
      · exact hindex ⟨name, Option.mem_toList.1 hname, rest, hleads⟩
    rw [retarget_eq_self hnone]
    exact .other hnone

theorem closable_append {s t : List Char} (ht : t ≠ []) : Closable (s ++ t) ↔ Closable t := by
  rw [Closable, Closable, List.getLast?_append_of_ne_nil _ ht]

theorem closable_bindingName (name : String) (number : Nat) : Closable (bindingName name number).toList := by
  rw [toList_bindingName, ← List.append_assoc, closable_append (List.cons_ne_nil _ _)]
  intro hlast
  have hmem := List.mem_of_getLast? hlast
  rcases List.mem_cons.1 hmem with hmem | hmem
  · exact absurd hmem (by decide)
  · exact absurd (isNameChar_of_mem_toDigits hmem) (by decide)

theorem closable_retarget (h : Closable body) : Closable (retarget aliases number body) := by
  rw [retarget]
  cases hfind : aliases.findSome? fun name =>
    (afterAlias? name body).map fun rest => (bindingName name number).toList ++ rest with
  | none => exact h
  | some renamed =>
    obtain ⟨name, -, hname⟩ := List.exists_of_findSome?_eq_some hfind
    obtain ⟨rest, hrest, rfl⟩ := Option.map_eq_some_iff.1 hname
    obtain ⟨blanks, rfl, -⟩ := (afterAlias?_eq_some_iff.1 hrest).split
    show Closable ((bindingName name number).toList ++ rest)
    by_cases hempty : rest = []
    · rw [hempty, List.append_nil]
      exact closable_bindingName name number
    · rw [← List.append_assoc, closable_append hempty] at h
      exact (closable_append hempty).2 h

theorem pieces_itemize (aliases : List String) (number : Nat) (keep : Bool) (text : List Char) :
    placeholder.pieces keep (itemize aliases number text) =
      (placeholder.pieces keep text).map (Piece.map (retarget aliases number)) := by
  rw [itemize_eq_rewritten]
  exact pieces_rewritten (fun _ => closable_retarget) keep text

theorem itemize_eq_self {text : List Char} (h : ∀ body, .token body ∈ placeholder.pieces true text →
    ∀ name ∈ aliases, ∀ rest, ¬ LeadsWith name body rest) : itemize aliases number text = text := by
  have hsame : ∀ piece ∈ placeholder.pieces true text,
      (piece.map (retarget aliases number)).written = piece.written := by
    intro piece hpiece
    cases piece with
    | plain s => rfl
    | token body =>
      rw [Piece.map, retarget_eq_self (h body hpiece)]
  conv_rhs => rw [← flatMap_written_pieces text]
  rw [itemize_eq_rewritten, rewritten]
  exact List.flatMap_congr hsame

/-- The body of nested loops after the iterations, from the innermost loop on. -/
def itemizeAll (levels : List (Loop × Nat)) (text : List Char) : List Char :=
  levels.foldl (fun text level => itemize level.1.aliases level.2 text) text

/-- The inside of a placeholder in the body of nested loops after the iterations, from the innermost loop on. -/
def retargetAll (levels : List (Loop × Nat)) (body : List Char) : List Char :=
  levels.foldl (fun body level => retarget level.1.aliases level.2 body) body

theorem pieces_itemizeAll (levels : List (Loop × Nat)) (keep : Bool) (text : List Char) :
    placeholder.pieces keep (itemizeAll levels text) =
      (placeholder.pieces keep text).map (Piece.map (retargetAll levels)) := by
  induction levels generalizing text with
  | nil =>
    have hmap : Piece.map (retargetAll []) = id := by
      funext piece
      cases piece <;> rfl
    rw [hmap, List.map_id]
    rfl
  | cons level levels ih =>
    have hmap : Piece.map (retargetAll (level :: levels)) =
        Piece.map (retargetAll levels) ∘ Piece.map (retarget level.1.aliases level.2) := by
      funext piece
      cases piece <;> rfl
    rw [hmap, ← List.map_map, ← pieces_itemize]
    exact ih _

/-- What a piece of the body of a loop becomes in an iteration: plain text stays as it is. -/
inductive Repoints (spec : Loop) (number : Nat) : Piece → Piece → Prop
  | plain (s : List Char) : Repoints spec number (.plain s) (.plain s)
  | token {body body' : List Char} : spec.Points number body body' → Repoints spec number (.token body) (.token body')

theorem repoints_map_retarget (spec : Loop) (number : Nat) (pieces : List Piece) :
    List.Forall₂ (spec.Repoints number) pieces (pieces.map (Piece.map (retarget spec.aliases number))) := by
  rw [List.forall₂_map_right_iff, List.forall₂_same]
  intro piece _
  cases piece with
  | plain s => exact .plain s
  | token body => exact .token (spec.points_retarget number body)

/-- The text of an iteration, scanned again, has as many pieces as the body: the plain text, with escaped opening
delimiters and an opening delimiter that is never closed, is the same, and of the tokens only those that begin with
an alias are pointed at its variable. Both texts are made up of their pieces, so that the body is its own text
where no token begins with an alias. At every level of nested loops the inside of a token is what the levels make
of it, whatever is escaped in it. -/
theorem rescan_itemize (spec : Loop) (number : Nat) (text : List Char) :
    (∀ keep, List.Forall₂ (spec.Repoints number) (placeholder.pieces keep text)
      (placeholder.pieces keep (itemize spec.aliases number text))) ∧
    (placeholder.pieces true text).flatMap Piece.written = text ∧
    (placeholder.pieces true (itemize spec.aliases number text)).flatMap Piece.written =
      itemize spec.aliases number text ∧
    ((∀ body, .token body ∈ placeholder.pieces true text → ∀ name ∈ spec.aliases, ∀ rest,
        ¬ LeadsWith name body rest) → itemize spec.aliases number text = text) ∧
    ∀ levels keep, placeholder.pieces keep (itemizeAll levels text) =
      (placeholder.pieces keep text).map (Piece.map (retargetAll levels)) := by
  refine ⟨fun keep => ?_, flatMap_written_pieces text, flatMap_written_pieces _, itemize_eq_self,
    fun levels keep => pieces_itemizeAll levels keep text⟩
  rw [pieces_itemize]
  exact spec.repoints_map_retarget number _

/-- An escaped opening delimiter in front of an alias, and a token whose inside closes in the middle. -/
def guardedText : List Char := "\\#\x7bid\x7d#\x7bx\\\x7d\x7d".toList

theorem pieces_guardedText : placeholder.pieces true guardedText =
    [.plain ['\\', '#', '\x7b'], .plain ['i'], .plain ['d'], .plain ['\x7d'], .token ['x', '\x7d']] := by
  have hbody : placeholder.body? ['x', '\\', '\x7d', '\x7d'] = some (['x', '\x7d'], []) :=
    body?_escaped (show ['x', '\x7d'].getLast? ≠ some '\\' by decide) []
  show placeholder.pieces true ('\\' :: '#' :: '\x7b' :: ['i', 'd', '\x7d', '#', '\x7b', 'x', '\\', '\x7d', '\x7d']) = _
  rw [pieces_escapedOpen, pieces_char (by decide) (by decide), pieces_char (by decide) (by decide),
    pieces_char (by decide) (by decide), pieces_open hbody, pieces_nil]
  rfl

/-- A loop over ids. -/
def overIds : Loop := ⟨⟨"ids", .name "ids"⟩, some "id", some "i", "", "", ""⟩

theorem rescan_itemize_guardedText :
    (∀ body, .token body ∈ placeholder.pieces true guardedText → ∀ name ∈ overIds.aliases, ∀ rest,
      ¬ LeadsWith name body rest) ∧ itemize overIds.aliases 0 guardedText = guardedText := by
  have hfree : ∀ body, .token body ∈ placeholder.pieces true guardedText → ∀ name ∈ overIds.aliases, ∀ rest,
      ¬ LeadsWith name body rest := by
    intro body hbody name hname rest hleads
    rw [pieces_guardedText] at hbody
    obtain rfl : body = ['x', '\x7d'] := by simpa using hbody
    have hafter := afterAlias?_eq_some_iff.2 hleads
    rcases List.mem_cons.1 hname with rfl | hname
    · cases hafter
    · obtain rfl := List.mem_singleton.1 hname
      cases hafter
  exact ⟨hfree, (rescan_itemize overIds 0 guardedText).2.2.2.1 hfree⟩

end Loop

end DynamicSql
