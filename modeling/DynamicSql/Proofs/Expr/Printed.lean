import DynamicSql.Proofs.Expr.Reading
import DynamicSql.Proofs.Expr.Scan

/-!
# Printed expressions

Every expression whose names are names and whose literals have a text can be printed, and whichever way it
is printed, it is read back from the text (`parse_printed`). The scanner finds the pieces, and the reader
makes the expression of them.
-/

namespace DynamicSql.Expr

open Token

/-- Literals that have a text: numbers are not negative, and decimal numbers have decimal places unless they
are too large for 64 bits. -/
inductive IsWritable : Value → Prop
  | null : IsWritable .null
  | boolean (b : Bool) : IsWritable (.boolean b)
  | string (s : String) : IsWritable (.string s)
  | int {k : Int64} (h : 0 ≤ k.toInt) : IsWritable (.int k)
  | large {n : Nat} (h : 9223372036854775807 < n) : IsWritable (.decimal (.ofInt n))
  | decimal (n : Nat) {scale : Nat} (h : 0 < scale) : IsWritable (.decimal ⟨n, scale⟩)

/-- Expressions that have a text: their names are names, and their literals have a text. -/
inductive Writable : Expr → Prop
  | literal {v : Value} (h : IsWritable v) : Writable (.literal v)
  | name {n : String} (h : IsIdent n) : Writable (.name n)
  | property {target : Expr} {n : String} (ht : Writable target) (hn : IsIdent n) :
      Writable (.property target n)
  | index {target key : Expr} (ht : Writable target) (hk : Writable key) :
      Writable (.index target key)
  | call {target : Expr} {n : String} {args : List Expr} (ht : Writable target) (hn : IsIdent n)
      (ha : ∀ a ∈ args, Writable a) : Writable (.call target n args)
  | unary (op : UnaryOp) {operand : Expr} (h : Writable operand) : Writable (.unary op operand)
  | binary (op : BinaryOp) {left right : Expr} (hl : Writable left) (hr : Writable right) :
      Writable (.binary op left right)

/-! ### Every writable expression has a text -/

namespace Token

theorem Laid.blank {ts : List Token} {s : List Char} (h : Laid ts s) : Laid ts (' ' :: s) := by
  have hspace : isSpace ' ' = true := rfl
  cases h with
  | nil hgap => exact .nil (List.forall_mem_cons.2 ⟨hspace, hgap⟩)
  | cons hgap hmark hblank hrest =>
    exact .cons (List.forall_mem_cons.2 ⟨hspace, hgap⟩) hmark hblank hrest

theorem Laid.piece {t : Token} {ts : List Token} {s : List Char} (h : Laid ts s)
    (hblank : (t.isOperatorWord || ts.head?.any isOperatorWord) = true →
      s.head?.any isSpace = true) : Laid (t :: ts) (t.text '"' ++ s) := by
  refine .cons (List.forall_mem_nil _) (.inr rfl) (fun u hu hword => ?_) h
  rw [Option.mem_def.1 hu] at hblank
  obtain ⟨h, hspace⟩ := (Option.any_eq_true_iff_get _ _).1 (hblank hword)
  exact ⟨_, Option.get_mem h, hspace⟩

theorem exists_laid (ts : List Token) : ∃ s, Laid ts s ∧ s.head?.any isSpace = true := by
  induction ts with
  | nil => exact ⟨_, (Laid.nil (List.forall_mem_nil _)).blank, rfl⟩
  | cons t ts ih =>
    obtain ⟨s, hs, hhead⟩ := ih
    exact ⟨_, (hs.piece fun _ => hhead).blank, rfl⟩

end Token

theorem isDigits_of_forall {s : List Char} (hne : s ≠ []) (hs : ∀ c ∈ s, c.isDigit = true) :
    IsDigits (Nat.ofDigitChars 10 s 0) s := ⟨hne, hs, rfl⟩

theorem isDigits_toDigits (n : Nat) : IsDigits n (Nat.toDigits 10 n) where
  ne_nil := Nat.toDigits_ne_nil
  digits _ hc := Nat.isDigit_of_mem_toDigits (by decide) (by decide) hc
  value := Nat.ofDigitChars_toDigits (by decide) (by decide)

theorem ofDigitChars_zeros (k : Nat) : Nat.ofDigitChars 10 (List.replicate k '0') 0 = 0 := by
  induction k with
  | zero => rfl
  | succ k ih => rw [List.replicate_succ, Nat.ofDigitChars_cons]; exact ih

theorem exists_isDigits_places (n : Nat) {scale : Nat} (h : 0 < scale) :
    ∃ k l s places, IsDigits k s ∧ IsDigits l places ∧ places.length = scale ∧
      Nat.ofDigitChars 10 (s ++ places) 0 = n := by
  have hn := isDigits_toDigits n
  obtain ⟨ds, hds⟩ : ∃ ds, ds = List.replicate (scale + 1) '0' ++ Nat.toDigits 10 n := ⟨_, rfl⟩
  have hdigits : ∀ c ∈ ds, c.isDigit = true := by
    rw [hds]
    refine List.forall_mem_append.2 ⟨fun c hc => ?_, hn.digits⟩
    rw [List.eq_of_mem_replicate hc]
    rfl
  have hlength : scale + 1 ≤ ds.length := by
    rw [hds, List.length_append, List.length_replicate]
    omega
  have hwhole : ds.take (ds.length - scale) ≠ [] := by
    rw [← List.length_pos_iff, List.length_take]
    omega
  have hplaces : (ds.drop (ds.length - scale)).length = scale := by
    rw [List.length_drop]
    omega
  refine ⟨_, _, ds.take (ds.length - scale), ds.drop (ds.length - scale),
    isDigits_of_forall hwhole fun c hc => hdigits c (List.mem_of_mem_take hc),
    isDigits_of_forall ?_ fun c hc => hdigits c (List.mem_of_mem_drop hc), hplaces, ?_⟩
  · rw [← List.length_pos_iff, hplaces]
    exact h
  · rw [List.take_append_drop, hds, Nat.ofDigitChars_append, ofDigitChars_zeros, hn.value]

theorem exists_isLiteral {v : Value} (h : IsWritable v) : ∃ t, IsLiteral v t := by
  cases h with
  | null => exact ⟨_, .null⟩
  | boolean b => exact ⟨_, .boolean b⟩
  | string s => exact ⟨_, .string s⟩
  | @int k h => exact ⟨_, .int (Int.toNat_of_nonneg h).symm (isDigits_toDigits _)⟩
  | @large n h => exact ⟨_, .large h (isDigits_toDigits n)⟩
  | @decimal n scale h =>
    obtain ⟨k, l, s, places, hs, hplaces, rfl, hn⟩ := exists_isDigits_places n h
    exact ⟨_, .fraction hs hplaces hn⟩

theorem exists_pieces {R : Expr → List Token → Prop} {args : List Expr}
    (h : ∀ a ∈ args, ∃ ts, R a ts) :
    ∃ l : List (Expr × List Token), l.map Prod.fst = args ∧ ∀ p ∈ l, R p.1 p.2 := by
  induction args with
  | nil => exact ⟨[], rfl, nofun⟩
  | cons a args ih =>
    obtain ⟨ts, hts⟩ := h a (.head _)
    obtain ⟨l, hl, hall⟩ := ih fun b hb => h b (.tail _ hb)
    exact ⟨(a, ts) :: l, by rw [List.map_cons, hl], List.forall_mem_cons.2 ⟨hts, hall⟩⟩

theorem exists_writes_of_loosest {e : Expr} (h : ∃ ts, Writes loosest e ts) (m : Nat) :
    ∃ ts, Writes m e ts :=
  h.elim fun _ h => ⟨_, .paren h⟩

theorem exists_writes {e : Expr} (h : Writable e) : ∃ ts, Writes loosest e ts := by
  induction h with
  | literal h => exact (exists_isLiteral h).elim fun _ h => ⟨_, .literal h⟩
  | name h => exact ⟨_, .name h⟩
  | property _ hn ih =>
    obtain ⟨ts, hts⟩ := exists_writes_of_loosest ih 0
    exact ⟨_, .property hts hn⟩
  | index _ _ iht ihk =>
    obtain ⟨ts, hts⟩ := exists_writes_of_loosest iht 0
    obtain ⟨us, hus⟩ := ihk
    exact ⟨_, .index hts hus⟩
  | call _ hn _ iht iha =>
    obtain ⟨ts, hts⟩ := exists_writes_of_loosest iht 0
    obtain ⟨l, rfl, hl⟩ := exists_pieces iha
    exact ⟨_, .call hts hn hl⟩
  | unary op _ ih =>
    obtain ⟨ts, hts⟩ := exists_writes_of_loosest ih 1
    exact ⟨_, .unary (by decide) (.symbol op) hts⟩
  | binary op _ _ ihl ihr =>
    obtain ⟨ts, hts⟩ := exists_writes_of_loosest ihl (op.level + 2)
    obtain ⟨us, hus⟩ := exists_writes_of_loosest ihr (op.level + 1)
    exact ⟨_, .binary (by cases op <;> decide) (.symbol op) hts hus⟩

theorem exists_prints {e : Expr} (h : Writable e) : ∃ text, Prints e text := by
  obtain ⟨ts, hts⟩ := exists_writes h
  obtain ⟨s, hs, -⟩ := exists_laid ts
  exact ⟨String.ofList s, ts, hts, by rwa [String.toList_ofList]⟩

/-! ### Every text of an expression is read back -/

theorem parse_of_prints {e : Expr} {text : String} (h : Prints e text) : parse text = .ok e := by
  obtain ⟨ts, hwrites, hlaid⟩ := h
  have hread : read? text.toList = some e := by
    rw [read?, scan?_of_laid hlaid (isRun_of_writes hwrites)]
    exact ofTokens?_of_writes hwrites
  rw [parse, hread]

end DynamicSql.Expr
