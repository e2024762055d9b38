import DynamicSql.Text.Utf8

/-!
# Delimited tokens

A token is the text between an opening and a closing delimiter, such as `id` in `#{id}`. A backslash
before an opening delimiter makes it plain text, and one before a closing delimiter makes it part of
the token. An opening delimiter that is never closed is plain text, and so is all that follows it.

`Delimiters.pieces` splits a text into plain text and tokens from left to right; `Delimiters.replace`
puts something else in the place of each token.
-/

namespace DynamicSql

/-- A delimiter: at least one character. -/
structure Delimiter where
  first : Char
  more : List Char
  deriving DecidableEq

namespace Delimiter

def chars (d : Delimiter) : List Char := d.first :: d.more

/-- What follows the delimiter at the head of the text, if it stands there. -/
def strip? (d : Delimiter) : List Char → Option (List Char)
  | [] => none
  | c :: rest =>
    if c = d.first ∧ d.more.isPrefixOf rest then some (rest.drop d.more.length) else none

theorem length_lt_of_strip? {d : Delimiter} {s rest : List Char} (h : d.strip? s = some rest) :
    rest.length < s.length := by
  cases s with
  | nil => simp [strip?] at h
  | cons c t =>
    simp only [strip?] at h
    split at h
    · obtain rfl := Option.some.inj h
      simp only [List.length_drop, List.length_cons]
      omega
    · simp at h

end Delimiter

/-- The delimiters of a kind of token. -/
structure Delimiters where
  opening : Delimiter
  closing : Delimiter
  deriving DecidableEq

/-- A part of a text: plain text as it is to be copied, or the inside of a token. -/
inductive Piece where
  | plain (s : List Char)
  | token (body : List Char)
  deriving DecidableEq

namespace Delimiters

/-- Reads the inside of a token up to its closing delimiter, and what follows that. -/
def body? (d : Delimiters) (s : List Char) : Option (List Char × List Char) :=
  match s with
  | [] => none
  | c :: rest =>
    match _h : d.closing.strip? (c :: rest) with
    | some rest => some ([], rest)
    | none =>
      if c = '\\' then
        match _h : d.closing.strip? rest with
        | some rest =>
          (body? d rest).map fun (body, rest) => (d.closing.chars ++ body, rest)
        | none => (body? d rest).map fun (body, rest) => (c :: body, rest)
      else (body? d rest).map fun (body, rest) => (c :: body, rest)
termination_by s.length
decreasing_by
  · have := Delimiter.length_lt_of_strip? ‹_›
    simp only [List.length_cons]
    omega
  · simp
  · simp

theorem length_le_of_body? {d : Delimiters} {s body rest : List Char}
    (h : d.body? s = some (body, rest)) : rest.length ≤ s.length := by
  fun_induction body? d s generalizing body rest with
  | case1 => simp at h
  | case2 c t r hr =>
    have := Delimiter.length_lt_of_strip? hr
    simp only [Option.some.injEq, Prod.mk.injEq] at h
    obtain ⟨_, rfl⟩ := h
    omega
  | case3 t r hr _ ih =>
    obtain ⟨⟨b, r'⟩, hb, he⟩ := Option.map_eq_some_iff.1 h
    simp only [Prod.mk.injEq] at he
    obtain ⟨_, rfl⟩ := he
    have := Delimiter.length_lt_of_strip? hr
    have := ih hb
    simp only [List.length_cons]
    omega
  | case4 t _ _ ih =>
    obtain ⟨⟨b, r'⟩, hb, he⟩ := Option.map_eq_some_iff.1 h
    simp only [Prod.mk.injEq] at he
    obtain ⟨_, rfl⟩ := he
    have := ih hb
    simp only [List.length_cons]
    omega
  | case5 c t _ _ ih =>
    obtain ⟨⟨b, r'⟩, hb, he⟩ := Option.map_eq_some_iff.1 h
    simp only [Prod.mk.injEq] at he
    obtain ⟨_, rfl⟩ := he
    have := ih hb
    simp only [List.length_cons]
    omega

/-- The parts of a text, from left to right. With `keepEscapes`, the backslash before an opening
delimiter stays in the plain text, so that it can be split again. -/
def pieces (d : Delimiters) (keepEscapes : Bool) (s : List Char) : List Piece :=
  match s with
  | [] => []
  | c :: rest =>
    match _h : d.opening.strip? (c :: rest) with
    | some inner =>
      match _h : d.body? inner with
      | some (body, rest) => .token body :: pieces d keepEscapes rest
      | none => [.plain (c :: rest)]
    | none =>
      if c = '\\' then
        match _h : d.opening.strip? rest with
        | some rest =>
          .plain ((if keepEscapes then [c] else []) ++ d.opening.chars) :: pieces d keepEscapes rest
        | none => .plain [c] :: pieces d keepEscapes rest
      else .plain [c] :: pieces d keepEscapes rest
termination_by s.length
decreasing_by
  · have h₁ := Delimiter.length_lt_of_strip? ‹d.opening.strip? (_ :: _) = some inner›
    have h₂ := length_le_of_body? ‹d.body? inner = some _›
    omega
  · have := Delimiter.length_lt_of_strip? ‹d.opening.strip? _ = some _›
    simp only [List.length_cons]
    omega
  · simp
  · simp

/-- Writes a part of a text behind what is written already: plain text as it is, and what `handler`
makes of the inside of a token. The handler is given the offset at which its replacement begins. -/
def writePiece {m : Type → Type} [Monad m] (handler : List Char → Nat → m (List Char))
    (out : List Char) : Piece → m (List Char)
  | .plain t => pure (out ++ t)
  | .token body => do return out ++ (← handler body (Text.utf8Length out))

/-- The text with what `handler` makes of each token in the token's place. -/
def replace {m : Type → Type} [Monad m] (d : Delimiters) (keepEscapes : Bool)
    (handler : List Char → Nat → m (List Char)) (s : List Char) : m (List Char) :=
  (d.pieces keepEscapes s).foldlM (writePiece handler) []

/-- The tokens that stand for parameters. -/
def placeholder : Delimiters := ⟨⟨'#', ['\x7b']⟩, ⟨'\x7d', []⟩⟩

/-- The tokens that stand for configured variables. -/
def substitution : Delimiters := ⟨⟨'$', ['\x7b']⟩, ⟨'\x7d', []⟩⟩

end Delimiters

end DynamicSql
