import DynamicSql.Expr.Eval
import DynamicSql.Proofs.Expr.Printed
import DynamicSql.Proofs.Path.Indexed

/-!
# Paths as expressions

The text of a path of names with indexes is that of an expression, too (`Expr.parse_linked`). The steps
that evaluating the expression takes are the lookup keys of the path (`Expr.steps_ofLinks`).
-/

namespace DynamicSql

open DynamicSql.Expr

/-- The expression begins with the name `root` and takes these steps from there, in order: to properties,
and to indexes that are literals. -/
inductive Expr.Steps (root : String) : Expr → List String → Prop
  | name : Steps root (.name root) []
  | property {target : Expr} {keys : List String} (h : Steps root target keys) (n : String) :
      Steps root (.property target n) (keys ++ [n])
  | index {target : Expr} {keys : List String} (h : Steps root target keys) (k : Value) :
      Steps root (.index target (.literal k)) (keys ++ [k.plainText])

theorem Expr.Steps.eval_eq {root : String} {e : Expr} {keys : List String} (h : Steps root e keys)
    (lookup : Lookup) : e.eval lookup = lookup root >>= fun u => keys.foldlM navigate u := by
  induction h with
  | name => exact (bind_pure (lookup root)).symm
  | property _ n ih =>
    rw [eval, ih, bind_assoc]
    simp only [List.foldlM_append, List.foldlM_cons, List.foldlM_nil, bind_pure]
  | index _ k ih =>
    have hkey : eval lookup (.literal k) = .ok k := rfl
    rw [eval, ih, bind_assoc, hkey]
    simp only [List.foldlM_append, List.foldlM_cons, List.foldlM_nil, bind_pure]
    rfl

theorem Expr.Steps.eq_name {root : String} {e : Expr} (h : Steps root e []) : e = .name root := by
  generalize hkeys : ([] : List String) = keys at h
  cases h with
  | name => rfl
  | property _ n => exact absurd hkeys.symm (List.concat_ne_nil _ _)
  | index _ k => exact absurd hkeys.symm (List.concat_ne_nil _ _)

/-! ### Indexes as literals -/

theorem Number.Decimal.text_ofInt {n : Nat} (h : 0 < n) : (ofInt n).text = Nat.repr n := by
  have hzero : ¬ (n : Int) = 0 := by omega
  have hsign : ¬ (n : Int) < 0 := by omega
  have hleading : ¬ (5 : Int) < 0 - ((Nat.toDigits 10 (n : Int).natAbs).length : Int) := by omega
  have htrailing : ¬ (15 : Int) < -0 := by omega
  unfold text ofInt maxLeadingZeros maxTrailingZeros
  dsimp only
  rw [if_neg hzero, if_neg hleading, if_neg htrailing, if_neg hsign, String.empty_append]
  exact congrArg String.ofList (List.append_nil _)

namespace Subscript

/-- The literal that an index is read as. -/
def literal : Subscript → Value
  | position n =>
    match Number.int64? n with
    | some k => .int k
    | none => .decimal (.ofInt n)
  | quoted _ key => .string key

/-- The piece that writes the literal. -/
def token : Subscript → Token
  | position n => .number (Nat.toDigits 10 n) none
  | quoted _ key => .string key

/-- The mark that stands around the literal if it is a string. -/
def mark : Subscript → Char
  | position _ => '"'
  | quoted mark _ => mark

variable {i : Subscript}

theorem plainText_literal (i : Subscript) : i.literal.plainText = i.key := by
  cases i with
  | position n =>
    rw [Subscript.literal, key]
    cases hn : Number.int64? n with
    | some k =>
      show Number.intText k.toInt = Nat.repr n
      rw [Number.toInt_of_int64? hn]
      rfl
    | none =>
      apply Number.Decimal.text_ofInt
      apply Nat.pos_of_ne_zero
      rintro rfl
      cases hn
  | quoted mark key => rfl

theorem isLiteral (i : Subscript) : IsLiteral i.literal i.token := by
  cases i with
  | position n =>
    rw [Subscript.literal]
    cases hn : Number.int64? n with
    | some k => exact .int (Number.toInt_of_int64? hn) (isDigits_toDigits n)
    | none =>
      have hlarge : 9223372036854775807 < n := by
        unfold Number.int64? at hn
        split at hn
        · cases hn
        · omega
      exact .large hlarge (isDigits_toDigits n)
  | quoted mark key => exact .string key

theorem not_isOperatorWord (i : Subscript) : i.token.isOperatorWord = false := by cases i <;> rfl

theorem IsWritten.text_token (h : i.IsWritten) : i.token.text i.mark = i.chars := by
  cases h with
  | position n => rfl
  | @quoted mark key hmark hkey =>
    have hescaped : ∀ c ∈ key.toList, Token.escaped mark c = [c] := by
      intro c hc
      apply if_neg
      rintro (rfl | rfl)
      · rcases hmark with rfl | rfl <;> exact hkey _ hc (by decide)
      · exact hkey _ hc (by decide)
    rw [token, Token.text, chars, Subscript.mark, List.flatMap_congr hescaped, List.flatMap_singleton']

theorem IsWritten.isMark (h : i.IsWritten) : i.mark = '\'' ∨ i.mark = '"' := by
  cases h with
  | position n => exact .inr rfl
  | quoted hmark _ => exact hmark

end Subscript

/-! ### Names -/

namespace Expr

variable {n : String}

theorem isNameChar_of_isWordChar {c : Char} (h : Token.isWordChar c = true) : isNameChar c = true := by
  rcases Bool.or_eq_true_iff.1 h with h | h
  · rcases Bool.or_eq_true_iff.1 h with h | h
    · exact isNameChar_of_isAlphanum h
    · obtain rfl := eq_of_beq h
      decide
  · obtain rfl := eq_of_beq h
    decide

theorem IsIdent.isName (h : IsIdent n) : IsName n := by
  obtain ⟨hw, hc, hs⟩ := h.word
  refine ⟨by rw [hw]; exact List.cons_ne_nil _ _, ?_⟩
  rw [hw]
  refine List.forall_mem_cons.2 ⟨?_, fun d hd => isNameChar_of_isWordChar (hs d hd)⟩
  exact isNameChar_of_isWordChar (Token.isWordChar_of_isWordStart hc)

theorem digits?_cons {c : Char} (hc : c.isDigit = false) (s : List Char) : Number.digits? (c :: s) = none := by
  have hnone : ∀ s : List Char,
      s.foldl (fun acc c => do return (← acc) * 10 + (← Number.digitValue? c)) none = none := by
    intro s
    induction s with
    | nil => rfl
    | cons c s ih => exact ih
  have hfirst : Number.digitValue? c = none := if_neg (by rw [hc]; exact Bool.false_ne_true)
  rw [Number.digits?, List.isEmpty_cons, if_neg Bool.false_ne_true, List.foldl_cons, hfirst]
  exact hnone s

theorem IsIdent.not_isOperatorWord (h : IsIdent n) : (Token.word n).isOperatorWord = false := by
  have hwords : ∀ op ∈ BinaryOp.all, ∀ w ∈ op.word?, w ∈ keywords := by decide
  by_contra hoperator
  rcases Bool.or_eq_true_iff.1 (Bool.of_not_eq_false hoperator) with hnot | hword
  · obtain rfl := eq_of_beq hnot
    exact h.free (by decide)
  · obtain ⟨op, hop, hword⟩ := List.any_eq_true.1 hword
    exact h.free (hwords op hop n (eq_of_beq hword))

theorem IsIdent.position?_eq_error (h : IsIdent n) : ∃ error, Value.position? n = .error error := by
  obtain ⟨hw, hc, -⟩ := h.word
  have hread : Number.readNat? n.toList = none := by
    rw [hw, Number.readNat?.eq_def]
    split
    · next heq =>
      obtain ⟨rfl, -⟩ := List.cons.inj heq
      exact absurd hc (by decide)
    · exact digits?_cons (Token.not_isDigit_of_isWordStart hc) _
  exact ⟨_, by rw [Value.position?, hread]⟩

end Expr

/-! ### Links as steps -/

/-- A link that is read both in a path and in an expression: its name is a name of expressions, and its
index is read back. -/
structure Link.IsReadable (l : Link) : Prop where
  ident : IsIdent l.name
  index : ∀ i ∈ l.index, i.IsWritten

theorem Link.IsReadable.isWritten {l : Link} (h : l.IsReadable) : l.IsWritten := ⟨h.ident.isName, h.index⟩

namespace Expr

/-- The expression with an index behind it, if there is one. -/
def indexed (e : Expr) : Option Subscript → Expr
  | some i => .index e (.literal i.literal)
  | none => e

/-- The step from an expression to a property, and to what its index says. -/
def onto (target : Expr) (l : Link) : Expr := indexed (.property target l.name) l.index

/-- The expression of a path of links. -/
def ofLinks (first : Link) (rest : List Link) : Expr :=
  rest.foldl onto (indexed (.name first.name) first.index)

variable {root : String} {e : Expr} {keys : List String}

theorem Steps.indexed (h : Steps root e keys) (index : Option Subscript) :
    Steps root (e.indexed index) (keys ++ (index.map Subscript.key).toList) := by
  cases index with
  | none =>
    rw [Option.map_none, Option.toList_none, List.append_nil]
    exact h
  | some i =>
    have hindex := h.index i.literal
    rwa [i.plainText_literal] at hindex

theorem Steps.onto (h : Steps root e keys) (l : Link) : Steps root (e.onto l) (keys ++ l.keys) := by
  have hstep := (h.property l.name).indexed l.index
  rwa [List.append_assoc] at hstep

theorem steps_ofLinks (first : Link) (rest : List Link) :
    Steps first.name (ofLinks first rest)
      ((first.index.map Subscript.key).toList ++ rest.flatMap Link.keys) := by
  -- The expression grows with its steps, so both are general in the induction.
  have hfold : ∀ {e keys}, Steps first.name e keys →
      Steps first.name (rest.foldl Expr.onto e) (keys ++ rest.flatMap Link.keys) := by
    induction rest with
    | nil =>
      intro e keys h
      rwa [List.flatMap_nil, List.append_nil]
    | cons l rest ih =>
      intro e keys h
      rw [List.foldl_cons, List.flatMap_cons, ← List.append_assoc]
      exact ih (h.onto l)
  exact hfold (Steps.name.indexed first.index)

end Expr

/-! ### Links and their pieces -/

namespace Link

open Token

/-- The pieces of an index in brackets. -/
def indexTokens (index : Option Subscript) : List Token :=
  match index with
  | some i => [symbol "[", i.token, symbol "]"]
  | none => []

/-- The pieces of a link. -/
def tokens (l : Link) : List Token := word l.name :: indexTokens l.index

variable {l : Link} {e : Expr} {ts : List Token} {s : List Char}

theorem writes_indexed (h : ∀ m, Writes m e ts) (index : Option Subscript) (m : Nat) :
    Writes m (e.indexed index) (ts ++ indexTokens index) := by
  cases index with
  | none =>
    rw [indexTokens, List.append_nil]
    exact h m
  | some i => exact .index (h 0) (.literal i.isLiteral)

theorem writes_onto (h : ∀ m, Writes m e ts) (hl : l.IsReadable) (m : Nat) :
    Writes m (e.onto l) (ts ++ symbol "." :: l.tokens) := by
  have hproperty : ∀ m, Writes m (.property e l.name) (ts ++ [symbol ".", word l.name]) :=
    fun m => .property (h 0) hl.ident
  have hstep := writes_indexed hproperty l.index m
  rwa [List.append_assoc] at hstep

theorem writes_ofLinks {first : Link} {rest : List Link} (hfirst : first.IsReadable)
    (hrest : ∀ l ∈ rest, l.IsReadable) :
    Writes loosest (Expr.ofLinks first rest) (first.tokens ++ rest.flatMap fun l => symbol "." :: l.tokens) := by
  have hfold : ∀ {e ts}, (∀ m, Writes m e ts) →
      ∀ m, Writes m (rest.foldl Expr.onto e) (ts ++ rest.flatMap fun l => symbol "." :: l.tokens) := by
    induction rest with
    | nil =>
      intro e ts h m
      rw [List.flatMap_nil, List.append_nil]
      exact h m
    | cons l rest ih =>
      intro e ts h m
      obtain ⟨hl, hrest⟩ := List.forall_mem_cons.1 hrest
      rw [List.foldl_cons, List.flatMap_cons, ← List.append_assoc]
      exact ih hrest (writes_onto h hl) m
  exact hfold (writes_indexed (fun m => .name hfirst.ident) first.index) loosest

theorem laid_cons {t : Token} {mark : Char} (ht : t.isOperatorWord = false)
    (hts : ∀ u ∈ ts.head?, u.isOperatorWord = false) (hmark : mark = '\'' ∨ mark = '"') (h : Laid ts s) :
    Laid (t :: ts) (t.text mark ++ s) := by
  refine .cons (List.forall_mem_nil _) hmark (fun u hu hword => ?_) h
  rw [ht, hts u hu] at hword
  cases hword

theorem laid_symbol (c : String) (hts : ∀ u ∈ ts.head?, u.isOperatorWord = false) (h : Laid ts s) :
    Laid (symbol c :: ts) (c.toList ++ s) := laid_cons rfl hts (.inr rfl) h

theorem not_isOperatorWord_of_head {t : Token} (ht : t.isOperatorWord = false) :
    ∀ u ∈ (t :: ts).head?, u.isOperatorWord = false := by
  intro u hu
  obtain rfl := Option.some.inj hu
  exact ht

theorem laid_tokens (hl : l.IsReadable) (hts : ∀ u ∈ ts.head?, u.isOperatorWord = false) (h : Laid ts s) :
    Laid (l.tokens ++ ts) (l.chars ++ s) := by
  have hname : ∀ {us : List Token} {r : List Char}, (∀ u ∈ us.head?, u.isOperatorWord = false) →
      Laid us r → Laid (word l.name :: us) (l.name.toList ++ r) := fun hus hr =>
    laid_cons hl.ident.not_isOperatorWord hus (.inr rfl) hr
  rw [tokens, chars]
  cases hindex : l.index with
  | none => exact hname hts h
  | some i =>
    have hi := hl.index i hindex
    have hsymbol : ∀ {c : String} {us : List Token}, ∀ u ∈ (symbol c :: us).head?, u.isOperatorWord = false :=
      not_isOperatorWord_of_head rfl
    have hclosing : Laid (i.token :: symbol "]" :: ts) (i.token.text i.mark ++ ']' :: s) :=
      laid_cons i.not_isOperatorWord hsymbol hi.isMark (laid_symbol "]" hts h)
    have hopening := laid_symbol "[" (not_isOperatorWord_of_head i.not_isOperatorWord) hclosing
    have hall := hname hsymbol hopening
    rw [hi.text_token] at hall
    rw [indexTokens]
    simpa [Path.bracketed] using hall

theorem laid_linked {first : Link} {rest : List Link} (hfirst : first.IsReadable)
    (hrest : ∀ l ∈ rest, l.IsReadable) :
    Laid (first.tokens ++ rest.flatMap fun l => symbol "." :: l.tokens) (Path.linked first rest) := by
  have hhead : ∀ rest : List Link, ∀ u ∈ (rest.flatMap fun l => symbol "." :: l.tokens).head?,
      u.isOperatorWord = false := by
    intro rest
    cases rest with
    | nil => exact nofun
    | cons l rest => exact not_isOperatorWord_of_head rfl
  have htail : Laid (rest.flatMap fun l => symbol "." :: l.tokens) (rest.flatMap fun l => '.' :: l.chars) := by
    induction rest with
    | nil => exact .nil (List.forall_mem_nil _)
    | cons l rest ih =>
      obtain ⟨hl, hrest⟩ := List.forall_mem_cons.1 hrest
      have hlink := laid_tokens hl (hhead rest) (ih hrest)
      exact laid_symbol "." (not_isOperatorWord_of_head hl.ident.not_isOperatorWord) hlink
  exact laid_tokens hfirst (hhead rest) htail

end Link

/-- The text of a path of links is read as the expression of the path. -/
theorem Expr.parse_linked {first : Link} {rest : List Link} (hfirst : first.IsReadable)
    (hrest : ∀ l ∈ rest, l.IsReadable) :
    Expr.parse (String.ofList (Path.linked first rest)) = .ok (Expr.ofLinks first rest) := by
  refine parse_of_prints ⟨_, Link.writes_ofLinks hfirst hrest, ?_⟩
  rw [String.toList_ofList]
  exact Link.laid_linked hfirst hrest

end DynamicSql
