import DynamicSql.Proofs.Step
import DynamicSql.Proofs.Template.Occurrence
import DynamicSql.Proofs.Template.Rescan
import DynamicSql.Proofs.Text.Octets

/-!
# Replacing the tokens of a text

`Delimiters.replace_scans` says what replacing tokens does to a text of any characters. The octets of the text have
one cut at their tokens, found by the octets of the delimiters alone, and it cuts between characters. The handler is
called once for each token, in order, each time with the offset at which its replacement begins in the new text, and
its first error ends the calls.
-/

namespace DynamicSql

open Text

/-! ### Cuts of octets -/

theorem prefix_of_octets_prefix {s t : List Char} (h : octets s <+: octets t) : s <+: t := by
  obtain ⟨y, hy⟩ := h
  obtain ⟨rest, rfl, -⟩ := exists_of_octets_prefix hy.symm
  exact List.prefix_append s rest

section Occurrences

variable {mark before after text : List Char} {x y : List UInt8}

theorem FirstAt.octets (hmark : mark ≠ []) (h : FirstAt mark before after text) :
    FirstAt (Text.octets mark) (Text.octets before) (Text.octets after) (Text.octets text) := by
  refine ⟨by rw [h.split, octets_append, octets_append], ?_⟩
  intro x y hsplit
  obtain ⟨before', after', htext, rfl, -⟩ := exists_of_octets_eq hmark hsplit
  obtain ⟨t, rfl⟩ := h.first before' after' htext
  rw [octets_append]
  exact List.prefix_append _ _

theorem exists_of_firstAt_octets (hmark : mark ≠ []) (h : FirstAt (octets mark) x y (octets text)) :
    ∃ before after, FirstAt mark before after text ∧ octets before = x ∧ octets after = y := by
  obtain ⟨before, after, htext, rfl, rfl⟩ := exists_of_octets_eq hmark h.split
  refine ⟨before, after, ⟨htext, ?_⟩, rfl, rfl⟩
  intro before' after' hsplit
  apply prefix_of_octets_prefix
  apply h.first _ (octets after')
  rw [hsplit, octets_append, octets_append]

end Occurrences

namespace Delimiters

open Marks

variable {d : Delimiters} {keep : Bool} {past text body rest : List Char} {cut : Cut Char}

/-- The octets of the marks of delimiters, and of a backslash. -/
def octetMarks (d : Delimiters) : Marks UInt8 := ⟨octets d.opening.chars, octets d.closing.chars, 0x5c⟩

theorem octets_concat_escape (s : List Char) : octets (s ++ ['\\']) = octets s ++ [0x5c] := by
  rw [octets_append]
  rfl

theorem getLast?_octets_escape (s : List Char) : (octets s).getLast? = some 0x5c ↔ s.getLast? = some '\\' :=
  getLast?_octets rfl

theorem opening_ne_nil (d : Delimiters) : d.opening.chars ≠ [] := List.cons_ne_nil _ _

theorem closing_ne_nil (d : Delimiters) : d.closing.chars ≠ [] := List.cons_ne_nil _ _

theorem inside_octets (h : d.marks.Inside text body rest) :
    d.octetMarks.Inside (octets text) (octets body) (octets rest) := by
  induction h with
  | closed hfirst hlast =>
    apply Inside.closed (hfirst.octets d.closing_ne_nil)
    exact (getLast?_octets_escape _).not.2 hlast
  | @escaped text front back body rest hfirst hrest ih =>
    have hfirst' := hfirst.octets d.closing_ne_nil
    rw [marks, octets_concat_escape] at hfirst'
    have hescaped := Inside.escaped (m := d.octetMarks) hfirst' ih
    rw [octets_append, octets_append]
    exact hescaped

theorem exists_inside_of_octets {x y z : List UInt8} (h : d.octetMarks.Inside x y z) (hx : x = octets text) :
    ∃ body rest, d.marks.Inside text body rest := by
  induction h generalizing text with
  | @closed x y z hfirst hlast =>
    subst hx
    obtain ⟨body, rest, hfirst', rfl, rfl⟩ := exists_of_firstAt_octets d.closing_ne_nil hfirst
    exact ⟨body, rest, .closed hfirst' ((getLast?_octets_escape _).not.1 hlast)⟩
  | @escaped x front back y z hfirst hrest ih =>
    subst hx
    obtain ⟨before, after, hfirst', hbefore, rfl⟩ := exists_of_firstAt_octets d.closing_ne_nil hfirst
    have hlast : before.getLast? = some '\\' := by
      rw [← getLast?_octets_escape, hbefore]
      exact List.getLast?_concat
    obtain ⟨front', rfl⟩ := List.getLast?_eq_some_iff.1 hlast
    obtain ⟨body, rest, hinside⟩ := ih rfl
    exact ⟨_, rest, .escaped hfirst' hinside⟩

/-- A cut of a text cuts its octets. -/
theorem scans_octets (h : d.marks.Scans keep past text cut) :
    d.octetMarks.Scans keep (octets past) (octets text) (cut.map octets) := by
  induction h with
  | plain hnone =>
    apply Scans.plain
    intro x y hsplit
    obtain ⟨before, after, htext, -, -⟩ := exists_of_octets_eq d.opening_ne_nil hsplit
    exact hnone before after htext
  | @escaped past text before after cut hfirst hrest ih =>
    have hfirst' := hfirst.octets d.opening_ne_nil
    rw [marks, octets_concat_escape] at hfirst'
    rw [octets_append, octets_append, marks, octets_concat_escape] at ih
    have hescaped := @Scans.escaped _ d.octetMarks keep _ _ _ _ _ hfirst' ih
    rw [Cut.map_behind octets_append, octets_append]
    cases keep with
    | false => exact hescaped
    | true =>
      rw [if_pos rfl, marks, octets_concat_escape]
      exact hescaped
  | @token past text before after body rest past' cut hfirst hlast hinside hpast hrest ih =>
    have hpast' : octets past ++ octets text = octets past' ++ octets rest := by
      rw [← octets_append, ← octets_append, hpast]
    refine Scans.token (hfirst.octets d.opening_ne_nil) ?_ (inside_octets hinside) hpast' ih
    rw [← octets_append]
    exact (getLast?_octets_escape _).not.2 hlast
  | @unclosed past text before after hfirst hlast hnone =>
    refine Scans.unclosed (hfirst.octets d.opening_ne_nil) ?_ ?_
    · rw [← octets_append]
      exact (getLast?_octets_escape _).not.2 hlast
    · intro x y hinside
      obtain ⟨body, rest, hinside'⟩ := exists_inside_of_octets hinside rfl
      exact hnone body rest hinside'

/-! ### Calls of the handler -/

/-- A call of a handler: with the inside of a token and the offset at which the replacement begins, for the
replacement. -/
structure Replacement where
  body : List Char
  offset : Nat
  text : List Char

variable {ε σ : Type} {handler : List Char → Nat → EStateM ε σ (List Char)} {s s' : σ}

/-- The handler succeeds in these calls, one after the other. -/
inductive Calls (handler : List Char → Nat → EStateM ε σ (List Char)) : σ → List Replacement → σ → Prop
  | nil {s : σ} : Calls handler s [] s
  | cons {s t s' : σ} {call : Replacement} {calls : List Replacement} :
      handler call.body call.offset s = .ok call.text t → Calls handler t calls s' →
      Calls handler s (call :: calls) s'

/-- Behind what is written already, the plain text in front of each token and the token's replacement are written;
each replacement was asked for with the inside of its token and with the offset at which it begins. -/
inductive Filled : List Char → List (List Char × List Char) → List Replacement → List Char → Prop
  | nil {out : List Char} : Filled out [] [] out
  | cons {out plain body text written : List Char} {tokens : List (List Char × List Char)}
      {calls : List Replacement} : Filled (out ++ plain ++ text) tokens calls written →
      Filled out ((plain, body) :: tokens) (⟨body, utf8Length (out ++ plain), text⟩ :: calls) written

/-- Writes the plain text in front of a token, and what `handler` makes of the token. -/
def writeToken {m : Type → Type} [Monad m] (handler : List Char → Nat → m (List Char)) (out : List Char)
    (token : List Char × List Char) : m (List Char) := do
  return out ++ token.1 ++ (← handler token.2 (utf8Length (out ++ token.1)))

theorem foldlM_writePiece {m : Type → Type} [Monad m] [LawfulMonad m] (handler : List Char → Nat → m (List Char))
    (pieces : List Piece) (out : List Char) :
    pieces.foldlM (writePiece handler) out = (do
      let written ← (cutOf pieces).tokens.foldlM (writeToken handler) out
      return written ++ (cutOf pieces).tail) := by
  induction pieces generalizing out with
  | nil => simp [cutOf]
  | cons piece pieces ih =>
    rw [List.foldlM_cons]
    cases piece with
    | plain t =>
      rw [writePiece, pure_bind, ih, cutOf]
      obtain ⟨_ | ⟨⟨front, body⟩, tokens⟩, tail⟩ := cutOf pieces
      · simp [Cut.behind]
      · simp [Cut.behind, writeToken]
    | token body => simp [writePiece, cutOf, Cut.withToken, writeToken, ih]

theorem writeToken_eq_ok {token : List Char × List Char} {out out' : List Char} :
    writeToken handler out token s = .ok out' s' ↔
      ∃ text, handler token.2 (utf8Length (out ++ token.1)) s = .ok text s' ∧ out' = out ++ token.1 ++ text := by
  rw [writeToken, Step.bind_eq_ok]
  constructor
  · rintro ⟨text, t, htext, hout⟩
    obtain ⟨rfl, rfl⟩ := Step.pure_eq_ok.1 hout
    exact ⟨text, htext, rfl⟩
  · rintro ⟨text, htext, rfl⟩
    exact ⟨text, s', htext, Step.pure_eq_ok.2 ⟨rfl, rfl⟩⟩

theorem writeTokens_eq_ok {tokens : List (List Char × List Char)} {out written : List Char} :
    tokens.foldlM (writeToken handler) out s = .ok written s' ↔
      ∃ calls, Calls handler s calls s' ∧ Filled out tokens calls written := by
  induction tokens generalizing out s with
  | nil =>
    rw [List.foldlM_nil, Step.pure_eq_ok]
    constructor
    · rintro ⟨rfl, rfl⟩
      exact ⟨[], .nil, .nil⟩
    · rintro ⟨_, hcalls, hfilled⟩
      cases hfilled
      cases hcalls
      exact ⟨rfl, rfl⟩
  | cons token tokens ih =>
    obtain ⟨plain, body⟩ := token
    rw [List.foldlM_cons, Step.bind_eq_ok]
    constructor
    · rintro ⟨out', t, hfirst, hrest⟩
      obtain ⟨text, htext, rfl⟩ := writeToken_eq_ok.1 hfirst
      obtain ⟨calls, hcalls, hfilled⟩ := ih.1 hrest
      exact ⟨_, .cons htext hcalls, .cons hfilled⟩
    · rintro ⟨_, hcalls, hfilled⟩
      cases hfilled with
      | cons hfilled =>
        cases hcalls with
        | cons htext hcalls =>
          have hrest := ih.2 ⟨_, hcalls, hfilled⟩
          exact ⟨_, _, writeToken_eq_ok.2 ⟨_, htext, rfl⟩, hrest⟩

/-- The call for one of the tokens fails, when the calls for the tokens in front of it have succeeded. -/
def Stops (handler : List Char → Nat → EStateM ε σ (List Char)) (out : List Char)
    (tokens : List (List Char × List Char)) (s : σ) (e : ε) (s' : σ) : Prop :=
  ∃ before plain body after calls written t, tokens = before ++ (plain, body) :: after ∧ Calls handler s calls t ∧
    Filled out before calls written ∧ handler body (utf8Length (written ++ plain)) t = .error e s'

theorem writeToken_eq_error {token : List Char × List Char} {out : List Char} {e : ε} :
    writeToken handler out token s = .error e s' ↔
      handler token.2 (utf8Length (out ++ token.1)) s = .error e s' := by
  rw [writeToken, Step.bind_eq_error]
  constructor
  · rintro (h | ⟨text, t, -, h⟩)
    · exact h
    · cases h
  · exact .inl

theorem writeTokens_eq_error {tokens : List (List Char × List Char)} {out : List Char} {e : ε} :
    tokens.foldlM (writeToken handler) out s = .error e s' ↔ Stops handler out tokens s e s' := by
  induction tokens generalizing out s with
  | nil =>
    constructor
    · intro h
      cases h
    · rintro ⟨before, plain, body, after, _, _, _, htokens, -⟩
      simp at htokens
  | cons token tokens ih =>
    rw [List.foldlM_cons, Step.bind_eq_error]
    constructor
    · rintro (hfirst | ⟨out', t, hfirst, hrest⟩)
      · exact ⟨[], _, _, tokens, [], out, s, rfl, .nil, .nil, writeToken_eq_error.1 hfirst⟩
      · obtain ⟨text, htext, rfl⟩ := writeToken_eq_ok.1 hfirst
        obtain ⟨before, plain, body, after, calls, written, t', rfl, hcalls, hfilled, herror⟩ := ih.1 hrest
        exact ⟨token :: before, plain, body, after, _, written, t', rfl, .cons htext hcalls, .cons hfilled, herror⟩
    · rintro ⟨before, plain, body, after, calls, written, t, htokens, hcalls, hfilled, herror⟩
      cases before with
      | nil =>
        obtain ⟨rfl, rfl⟩ := List.cons.inj htokens
        cases hfilled
        cases hcalls
        exact .inl (writeToken_eq_error.2 herror)
      | cons token' before =>
        obtain ⟨rfl, rfl⟩ := List.cons.inj htokens
        cases hfilled with
        | cons hfilled =>
          cases hcalls with
          | cons htext hcalls =>
            have hrest := ih.2 ⟨before, plain, body, after, _, written, t, rfl, hcalls, hfilled, herror⟩
            exact .inr ⟨_, _, writeToken_eq_ok.2 ⟨_, htext, rfl⟩, hrest⟩

theorem Filled.exists_append {out written : List Char} {tokens : List (List Char × List Char)}
    {calls : List Replacement} (h : Filled out tokens calls written) : out <+: written ∧ ∀ call ∈ calls,
      ∃ front back, written = front ++ (call.text ++ back) ∧ (octets front).length = call.offset := by
  induction h with
  | nil => exact ⟨List.prefix_rfl, List.forall_mem_nil _⟩
  | @cons out plain body text written tokens calls hfilled ih =>
    obtain ⟨⟨back, hback⟩, hcalls⟩ := ih
    have hwritten : written = out ++ plain ++ (text ++ back) := by simp [← hback]
    refine ⟨⟨plain ++ (text ++ back), by simp [hwritten]⟩, ?_⟩
    exact List.forall_mem_cons.2 ⟨⟨out ++ plain, back, hwritten, length_octets _⟩, hcalls⟩

/-! ### Replacing -/

theorem replace_eq (handler : List Char → Nat → EStateM ε σ (List Char)) (d : Delimiters) (keep : Bool)
    (text : List Char) : d.replace keep handler text = (do
      let written ← (d.cut keep text).tokens.foldlM (writeToken handler) []
      return written ++ (d.cut keep text).tail) :=
  foldlM_writePiece handler (d.pieces keep text) []

theorem replace_eq_ok {out : List Char} : d.replace keep handler text s = .ok out s' ↔
    ∃ calls written, Calls handler s calls s' ∧ Filled [] (d.cut keep text).tokens calls written ∧
      out = written ++ (d.cut keep text).tail := by
  rw [replace_eq, Step.bind_eq_ok]
  constructor
  · rintro ⟨written, t, hwritten, hout⟩
    obtain ⟨rfl, rfl⟩ := Step.pure_eq_ok.1 hout
    obtain ⟨calls, hcalls, hfilled⟩ := writeTokens_eq_ok.1 hwritten
    exact ⟨calls, written, hcalls, hfilled, rfl⟩
  · rintro ⟨calls, written, hcalls, hfilled, rfl⟩
    exact ⟨written, s', writeTokens_eq_ok.2 ⟨calls, hcalls, hfilled⟩, Step.pure_eq_ok.2 ⟨rfl, rfl⟩⟩

theorem replace_eq_error {e : ε} : d.replace keep handler text s = .error e s' ↔
    Stops handler [] (d.cut keep text).tokens s e s' := by
  rw [replace_eq, Step.bind_eq_error, writeTokens_eq_error]
  constructor
  · rintro (h | ⟨written, t, -, h⟩)
    · exact h
    · cases h
  · exact .inl

/-- Replacing tokens follows the scan of the text by its marks. The octets of the text have one cut, which cuts
between characters; the handler is called with the inside of each token in order, and its replacements are written
in the place of the tokens, each of them at the offset that the handler was told; and where a call fails, its error
is the result, with the state that the call has left. -/
theorem replace_scans (hd : d.IsUnescaping) (keep : Bool) (text : List Char) :
    (∀ octetCut, d.octetMarks.Scans keep [] (octets text) octetCut ↔ octetCut = (d.cut keep text).map octets) ∧
    ∀ {ε σ : Type} (handler : List Char → Nat → EStateM ε σ (List Char)) (s s' : σ),
      (∀ out, d.replace keep handler text s = .ok out s' ↔
        ∃ calls written, Calls handler s calls s' ∧ Filled [] (d.cut keep text).tokens calls written ∧
          out = written ++ (d.cut keep text).tail ∧
          ∀ call ∈ calls, ∃ front back, out = front ++ (call.text ++ back) ∧ (octets front).length = call.offset) ∧
      ∀ e, d.replace keep handler text s = .error e s' ↔ Stops handler [] (d.cut keep text).tokens s e s' := by
  have hscans := scans_octets (scans_cut hd keep [] text fun h => absurd h.symm (Option.some_ne_none _))
  refine ⟨?_, ?_⟩
  · intro octetCut
    constructor
    · exact fun h => h.unique hscans
    · rintro rfl
      exact hscans
  · intro ε σ handler s s'
    refine ⟨?_, fun e => replace_eq_error⟩
    intro out
    rw [replace_eq_ok]
    constructor
    · rintro ⟨calls, written, hcalls, hfilled, rfl⟩
      refine ⟨calls, written, hcalls, hfilled, rfl, ?_⟩
      intro call hcall
      obtain ⟨front, back, hwritten, hoffset⟩ := hfilled.exists_append.2 call hcall
      exact ⟨front, back ++ (d.cut keep text).tail, by simp [hwritten], hoffset⟩
    · rintro ⟨calls, written, hcalls, hfilled, hout, -⟩
      exact ⟨calls, written, hcalls, hfilled, hout⟩

/-! An escaped opening delimiter, and a token with an escaped closing one between characters of two octets. -/

def escapedText : List Char := ['é', '\\', '#', '\x7b', 'a', '#', '\x7b', 'b', '\\', '\x7d', 'é', '\x7d']

theorem cut_escapedText : placeholder.cut false escapedText =
    ⟨[(['é', '#', '\x7b', 'a'], ['b', '\x7d', 'é'])], []⟩ := by
  have hclosable : Closable ['b', '\x7d', 'é'] := fun h => absurd (Option.some.inj h) (by decide)
  have hbody : placeholder.body? ['b', '\\', '\x7d', 'é', '\x7d'] = some (['b', '\x7d', 'é'], []) :=
    body?_escaped hclosable []
  rw [cut, escapedText, pieces_char (by decide) (by decide), pieces_escapedOpen, pieces_char (by decide) (by decide),
    pieces_open hbody, pieces_nil]
  rfl

/-- Gives the inside of each token back, and notes the offset. -/
def noting (body : List Char) (offset : Nat) : EStateM String (List Nat) (List Char) := do
  modify fun offsets => offsets ++ [offset]
  return body

theorem replace_escapedText : placeholder.IsUnescaping ∧
    placeholder.octetMarks.Scans false [] (octets escapedText)
      ⟨[(octets ['é', '#', '\x7b', 'a'], octets ['b', '\x7d', 'é'])], []⟩ ∧
    placeholder.replace false noting escapedText [] =
      .ok ['é', '#', '\x7b', 'a', 'b', '\x7d', 'é'] [5] := by
  have hd : placeholder.IsUnescaping := by
    unfold IsUnescaping
    decide
  obtain ⟨hscans, hreplace⟩ := replace_scans hd false escapedText
  rw [cut_escapedText] at hscans hreplace
  refine ⟨hd, (hscans _).2 rfl, ?_⟩
  obtain ⟨hok, -⟩ := hreplace noting [] [5]
  exact (hok _).2 ⟨[⟨['b', '\x7d', 'é'], 5, ['b', '\x7d', 'é']⟩], _, .cons rfl .nil, .cons .nil, rfl,
    List.forall_mem_singleton.2 ⟨['é', '#', '\x7b', 'a'], [], rfl, rfl⟩⟩

end Delimiters

end DynamicSql
