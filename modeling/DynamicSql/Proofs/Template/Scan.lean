import DynamicSql.Template.Delimited

/-!
# Scanning written text

A text that is written as a sequence of plain characters and complete placeholders is split into just
these again (`Lexeme.pieces_textOf`), with backslashes kept or not.
-/

namespace DynamicSql

/-- Whether a character is plain text wherever it stands: no delimiter of placeholders has it, and it
escapes nothing. -/
def isPlain (c : Char) : Bool := c != '#' && c != '\x7b' && c != '\x7d' && c != '\\'

theorem ne_of_isPlain {c : Char} (h : isPlain c = true) :
    c ≠ '#' ∧ c ≠ '\x7b' ∧ c ≠ '\x7d' ∧ c ≠ '\\' := by
  simpa [isPlain, and_assoc] using h

namespace Delimiters

@[simp] theorem pieces_nil (d : Delimiters) (keep : Bool) : d.pieces keep [] = [] := by
  rw [pieces]

theorem pieces_cons (d : Delimiters) (keep : Bool) (c : Char) (rest : List Char) :
    d.pieces keep (c :: rest) =
      match d.opening.strip? (c :: rest) with
      | some inner =>
        match d.body? inner with
        | some (body, rest) => .token body :: d.pieces keep rest
        | none => [.plain (c :: rest)]
      | none =>
        if c = '\\' then
          match d.opening.strip? rest with
          | some rest =>
            .plain ((if keep then [c] else []) ++ d.opening.chars) :: d.pieces keep rest
          | none => .plain [c] :: d.pieces keep rest
        else .plain [c] :: d.pieces keep rest := by
  rw [pieces]
  split
  · split <;> simp_all
  · split
    · split <;> simp_all
    · simp_all

theorem body?_cons (d : Delimiters) (c : Char) (rest : List Char) :
    d.body? (c :: rest) =
      match d.closing.strip? (c :: rest) with
      | some rest => some ([], rest)
      | none =>
        if c = '\\' then
          match d.closing.strip? rest with
          | some rest => (d.body? rest).map fun (body, rest) => (d.closing.chars ++ body, rest)
          | none => (d.body? rest).map fun (body, rest) => (c :: body, rest)
        else (d.body? rest).map fun (body, rest) => (c :: body, rest) := by
  rw [body?]
  split
  · simp_all
  · split
    · split <;> simp_all
    · simp_all

theorem pieces_of_unopened {d : Delimiters} {s : List Char}
    (h : ∀ c ∈ s, c ≠ d.opening.first ∧ c ≠ '\\') (keep : Bool) :
    d.pieces keep s = s.map fun c => .plain [c] := by
  induction s with
  | nil => exact pieces_nil d keep
  | cons c s ih =>
    obtain ⟨⟨hopen, hescape⟩, hs⟩ := List.forall_mem_cons.1 h
    have hstrip : d.opening.strip? (c :: s) = none := if_neg fun h => hopen h.1
    rw [pieces_cons, hstrip, List.map_cons, ← ih hs]
    exact if_neg hescape

end Delimiters

/-- The text of a piece, a token being replaced by what is made of its inside. -/
def Piece.filled (value : List Char → List Char) : Piece → List Char
  | plain s => s
  | token body => value body

namespace Delimiters

/-- Replacing tokens writes the pieces one after the other, where the replacement depends on the inside of the token
alone. -/
theorem replace_eq_flatMap (d : Delimiters) (keep : Bool) (value : List Char → List Char) (s : List Char) :
    d.replace keep (m := Id) (fun body _ => pure (value body)) s = (d.pieces keep s).flatMap (Piece.filled value) := by
  have hwrite : ∀ (pieces : List Piece) (out : List Char),
      pieces.foldlM (m := Id) (writePiece fun body _ => pure (value body)) out =
        out ++ pieces.flatMap (Piece.filled value) := by
    intro pieces
    induction pieces with
    | nil => exact fun out => (List.append_nil out).symm
    | cons piece pieces ih =>
      intro out
      rw [List.foldlM_cons, List.flatMap_cons, ← List.append_assoc, ← ih]
      cases piece <;> rfl
  exact hwrite (d.pieces keep s) []

/-! ### Placeholders -/

theorem strip?_closing_of_ne {c : Char} (h : c ≠ '\x7d') (s : List Char) :
    placeholder.closing.strip? (c :: s) = none := by
  simp [placeholder, Delimiter.strip?, h]

theorem strip?_opening_of_ne {c : Char} (h : c ≠ '#') (s : List Char) :
    placeholder.opening.strip? (c :: s) = none := by
  simp [placeholder, Delimiter.strip?, h]

theorem body?_append {body : List Char} (h : ∀ c ∈ body, c ≠ '\x7d' ∧ c ≠ '\\') (s : List Char) :
    placeholder.body? (body ++ '\x7d' :: s) = some (body, s) := by
  induction body with
  | nil => rw [List.nil_append, body?_cons]; rfl
  | cons c body ih =>
    obtain ⟨hclose, hescape⟩ := h c (.head _)
    rw [List.cons_append, body?_cons, strip?_closing_of_ne hclose]
    simp only [if_neg hescape]
    rw [ih fun c hc => h c (.tail _ hc)]
    rfl

theorem pieces_char {c : Char} (hopen : c ≠ '#') (hescape : c ≠ '\\') (keep : Bool) (s : List Char) :
    placeholder.pieces keep (c :: s) = .plain [c] :: placeholder.pieces keep s := by
  rw [pieces_cons, strip?_opening_of_ne hopen]
  exact if_neg hescape

theorem pieces_plain {c : Char} (h : isPlain c = true) (keep : Bool) (s : List Char) :
    placeholder.pieces keep (c :: s) = .plain [c] :: placeholder.pieces keep s := by
  obtain ⟨hopen, -, -, hescape⟩ := ne_of_isPlain h
  exact pieces_char hopen hescape keep s

theorem pieces_escaped (s : List Char) :
    placeholder.pieces false ('\\' :: '#' :: '\x7b' :: s) =
      .plain ['#', '\x7b'] :: placeholder.pieces false s := by
  have hopening : placeholder.opening.strip? ('#' :: '\x7b' :: s) = some s := rfl
  rw [pieces_cons, strip?_opening_of_ne (by decide), hopening]
  rfl

theorem pieces_token {body : List Char} (h : ∀ c ∈ body, c ≠ '\x7d' ∧ c ≠ '\\') (keep : Bool)
    (s : List Char) :
    placeholder.pieces keep ('#' :: '\x7b' :: (body ++ '\x7d' :: s)) =
      .token body :: placeholder.pieces keep s := by
  have hopening : placeholder.opening.strip? ('#' :: '\x7b' :: (body ++ '\x7d' :: s)) =
      some (body ++ '\x7d' :: s) := rfl
  rw [pieces_cons, hopening]
  simp only [body?_append h]

end Delimiters

/-- A part of a text as a template is written: a plain character, or a placeholder. -/
inductive Lexeme where
  | char (c : Char)
  | placeholder (body : List Char)

namespace Lexeme

/-- The text of a part. -/
def text : Lexeme → List Char
  | char c => [c]
  | placeholder body => '#' :: '\x7b' :: (body ++ ['\x7d'])

/-- A part is read back as it was written if its character is plain, and if the inside of the
placeholder neither closes nor escapes anything. -/
def Readable : Lexeme → Prop
  | char c => isPlain c = true
  | placeholder body => ∀ c ∈ body, c ≠ '\x7d' ∧ c ≠ '\\'

/-- What the scanner makes of a part. -/
def piece : Lexeme → Piece
  | char c => .plain [c]
  | placeholder body => .token body

/-- The text of parts. -/
def textOf (ls : List Lexeme) : List Char := ls.flatMap text

@[simp] theorem textOf_nil : textOf [] = [] := rfl

@[simp] theorem textOf_cons (l : Lexeme) (ls : List Lexeme) : textOf (l :: ls) = l.text ++ textOf ls :=
  rfl

@[simp] theorem textOf_append (ls ms : List Lexeme) : textOf (ls ++ ms) = textOf ls ++ textOf ms :=
  List.flatMap_append

/-- Scanning inverts writing. -/
theorem pieces_textOf {ls : List Lexeme} (h : ∀ l ∈ ls, l.Readable) (keep : Bool) :
    Delimiters.placeholder.pieces keep (textOf ls) = ls.map piece := by
  induction ls with
  | nil => exact Delimiters.pieces_nil _ _
  | cons l ls ih =>
    have hl := h l (.head _)
    have ih := ih fun m hm => h m (.tail _ hm)
    cases l with
    | char c => rw [textOf_cons, List.map_cons, ← ih]; exact Delimiters.pieces_plain hl keep _
    | placeholder body =>
      rw [textOf_cons, List.map_cons, ← ih, text, piece]
      simpa using Delimiters.pieces_token hl keep (textOf ls)

end Lexeme

end DynamicSql
