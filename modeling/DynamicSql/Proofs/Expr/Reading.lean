import DynamicSql.Proofs.Expr.Written

/-!
# Reading written expressions

The reader makes of the pieces that write an expression this expression again (`ofTokens?_of_writes`).
It collects properties, indexes and calls, and operators of one level, behind what it has read so far. So
the induction over what is written says of the pieces of a left operand that the reader comes to the point
where it goes on behind the operand (`Reads`), with most of its fuel left.
-/

namespace DynamicSql.Expr

open Token

/-! ### Single pieces -/

theorem digits?_of_isDigits {n : Nat} {s : List Char} (h : IsDigits n s) :
    Number.digits? s = some n := by
  have hfold : ∀ (s : List Char) (a : Nat), (∀ c ∈ s, c.isDigit = true) →
      s.foldl (fun acc c => do return (← acc) * 10 + (← Number.digitValue? c)) (some a) =
        some (Nat.ofDigitChars 10 s a) := by
    intro s
    induction s with
    | nil => exact fun _ _ => rfl
    | cons c s ih =>
      intro a hs
      have hc : Number.digitValue? c = some (c.toNat - '0'.toNat) := if_pos (hs c (.head _))
      rw [List.foldl_cons, hc, Nat.ofDigitChars_cons, ← ih _ fun d hd => hs d (.tail _ hd), Nat.mul_comm]
      rfl
  rw [Number.digits?, if_neg (by simp [h.ne_nil]), hfold s 0 h.digits, h.value]

theorem IsLiteral.literal?_eq {v : Value} {t : Token} (h : IsLiteral v t) : literal? t = some v := by
  cases h with
  | null => rfl
  | boolean b => cases b <;> rfl
  | string s => rfl
  | @int k n s hk hs =>
    rw [literal?, numberValue, digits?_of_isDigits hs]
    dsimp only [Option.getD_some]
    rw [← hk, Number.int64?_toInt]
  | @large n s hn hs =>
    have hnone : Number.int64? n = none := if_neg (by omega)
    rw [literal?, numberValue, digits?_of_isDigits hs]
    dsimp only [Option.getD_some]
    rw [hnone]
  | @fraction n k l s places hs hplaces hn =>
    have hall : IsDigits n (s ++ places) :=
      ⟨by simp [hs.ne_nil], List.forall_mem_append.2 ⟨hs.digits, hplaces.digits⟩, hn⟩
    rw [literal?, numberValue, digits?_of_isDigits hall]
    rfl

theorem IsLiteral.unaryOp?_eq {v : Value} {t : Token} (h : IsLiteral v t) : unaryOp? t = none := by
  cases h with
  | boolean b => cases b <;> rfl
  | _ => rfl

theorem IsIdent.name?_eq {n : String} (h : IsIdent n) : name? (Token.word n) = some n := if_neg h.free

theorem IsIdent.literal?_eq {n : String} (h : IsIdent n) : literal? (Token.word n) = none := by
  rw [literal?.eq_def]
  split
  · next heq => cases heq; exact absurd (by decide) h.free
  · next heq => cases heq; exact absurd (by decide) h.free
  · next heq => cases heq; exact absurd (by decide) h.free
  all_goals first | rfl | contradiction

theorem IsIdent.unaryOp?_eq {n : String} (h : IsIdent n) : unaryOp? (Token.word n) = none := by
  refine if_neg ?_
  rintro rfl
  exact absurd (by decide) h.free

theorem IsPrefix.unaryOp?_eq {op : UnaryOp} {t : Token} (h : IsPrefix op t) : unaryOp? t = some op := by
  cases h with
  | symbol => cases op <;> decide
  | word => rfl

theorem IsInfix.binaryOp?_eq {op : BinaryOp} {t : Token} (h : IsInfix op t) :
    binaryOp? t = some op := by
  cases h with
  | symbol => cases op <;> decide
  | word hw => cases op <;> cases hw <;> decide

/-! ### Where an expression ends -/

/-- The pieces do not go on with an expression: no property, index or call, and no operator of a level
below `k`. -/
def Stops (k : Nat) (rest : List Token) : Prop :=
  ∀ t ∈ rest.head?, t ≠ symbol "." ∧ t ≠ symbol "[" ∧ t ≠ symbol "(" ∧
    ∀ op, binaryOp? t = some op → k ≤ op.level

theorem readAccess_of_stops {k fuel : Nat} {e : Expr} {rest : List Token} (h : Stops k rest) :
    readAccess (fuel + 1) e rest = some (e, rest) := by
  cases rest with
  | nil => rw [readAccess] <;> simp
  | cons t rest =>
    obtain ⟨hpoint, hbracket, -, -⟩ := h t rfl
    rw [readAccess] <;> simp_all

theorem readRest_of_stops {k fuel : Nat} {e : Expr} {rest : List Token} (h : Stops (k + 1) rest) :
    readRest (fuel + 1) k e rest = some (e, rest) := by
  cases rest with
  | nil => rw [readRest]
  | cons t rest =>
    rw [readRest]
    split
    · next op hop =>
      have hlevel := (h t rfl).2.2.2 op hop
      rw [if_neg (by omega)]
    · rfl

/-! ### Reading behind an operand -/

/-- The reader comes from the pieces of an expression to the point where it goes on behind it: behind an
operand with properties, indexes and calls, behind one with operators before it, and behind operands of
level `k` with those of this level. It takes at most one unit of fuel for each piece. -/
def Reads (e : Expr) (ts : List Token) : Nat → Prop
  | 0 => ∀ fuel rest, 10 * ts.length ≤ fuel → (∀ t ∈ rest.head?, t ≠ symbol "(") →
      ∃ left, fuel ≤ left + ts.length ∧ readUnary fuel (ts ++ rest) = readAccess left e rest
  | 1 => ∀ fuel rest, 10 * ts.length ≤ fuel → Stops 0 rest →
      readUnary fuel (ts ++ rest) = some (e, rest)
  | k + 2 => ∀ fuel rest, 10 * ts.length + k + 2 ≤ fuel → Stops k rest →
      ∃ left, fuel ≤ left + ts.length ∧ readLevel fuel (k + 1) (ts ++ rest) = readRest left k e rest

theorem Stops.mono {k l : Nat} {rest : List Token} (h : Stops k rest) (hkl : l ≤ k) : Stops l rest :=
  fun t ht => ⟨(h t ht).1, (h t ht).2.1, (h t ht).2.2.1, fun op hop => le_trans hkl ((h t ht).2.2.2 op hop)⟩

variable {e : Expr} {ts : List Token}

/-- The reader reads just the pieces of an expression, if what stands behind does not go on with it. -/
theorem Reads.readLevel {k : Nat} (hne : ts ≠ []) (h : Reads e ts (k + 1)) {fuel : Nat}
    {rest : List Token} (hfuel : 10 * ts.length + k + 1 ≤ fuel) (hrest : Stops k rest) :
    readLevel fuel k (ts ++ rest) = some (e, rest) := by
  have hlength := List.length_pos_iff.2 hne
  cases k with
  | zero =>
    obtain ⟨fuel, rfl⟩ : ∃ f, fuel = f + 1 := Nat.exists_eq_succ_of_ne_zero (by omega)
    rw [Expr.readLevel]
    exact h fuel rest (by omega) hrest
  | succ k =>
    obtain ⟨left, hleft, hread⟩ := h fuel rest (by omega) (hrest.mono (Nat.le_succ k))
    obtain ⟨left, rfl⟩ : ∃ f, left = f + 1 := Nat.exists_eq_succ_of_ne_zero (by omega)
    rw [hread, readRest_of_stops hrest]

theorem Reads.succ {m : Nat} (hne : ts ≠ []) (h : Reads e ts m) : Reads e ts (m + 1) := by
  have hlength := List.length_pos_iff.2 hne
  cases m with
  | zero =>
    intro fuel rest hfuel hrest
    obtain ⟨left, hleft, hread⟩ := h fuel rest hfuel fun t ht => (hrest t ht).2.2.1
    obtain ⟨left, rfl⟩ : ∃ f, left = f + 1 := Nat.exists_eq_succ_of_ne_zero (by omega)
    rw [hread, readAccess_of_stops hrest]
  | succ k =>
    intro fuel rest hfuel hrest
    obtain ⟨fuel, rfl⟩ : ∃ f, fuel = f + 1 := Nat.exists_eq_succ_of_ne_zero (by omega)
    refine ⟨fuel, by omega, ?_⟩
    rw [Expr.readLevel, h.readLevel hne (by omega) hrest]
    rfl

theorem Reads.mono {m n : Nat} (hne : ts ≠ []) (h : Reads e ts m) (hmn : m ≤ n) : Reads e ts n := by
  induction hmn with
  | refl => exact h
  | step _ ih => exact ih.succ hne

/-! ### One step of the reader -/

variable {fuel : Nat} {rest : List Token} {target : Expr} {n : String}

theorem readUnary_of_primary {t : Token} (ht : unaryOp? t = none)
    (h : readPrimary fuel (t :: ts) = some (e, rest)) :
    readUnary (fuel + 1) (t :: ts) = readAccess fuel e rest := by
  rw [readUnary, ht]
  dsimp only
  rw [h]
  rfl

theorem readAccess_property (hn : IsIdent n) (hrest : ∀ t ∈ rest.head?, t ≠ symbol "(") :
    readAccess (fuel + 1) target (symbol "." :: word n :: rest) =
      readAccess fuel (.property target n) rest := by
  rw [readAccess, hn.name?_eq]
  dsimp only [Option.bind_eq_bind, Option.bind_some]
  split
  · exact absurd rfl (hrest _ rfl)
  · exact absurd rfl (hrest _ rfl)
  · rfl

theorem readAccess_index {key : Expr} {us : List Token}
    (h : readLevel fuel 6 us = some (key, symbol "]" :: rest)) :
    readAccess (fuel + 1) target (symbol "[" :: us) = readAccess fuel (.index target key) rest := by
  rw [readAccess, h]
  rfl

theorem readAccess_call_nil (hn : IsIdent n) :
    readAccess (fuel + 1) target (symbol "." :: word n :: symbol "(" :: symbol ")" :: rest) =
      readAccess fuel (.call target n []) rest := by
  rw [readAccess, hn.name?_eq]
  rfl

theorem readAccess_call {args : List Expr} {us : List Token} (hn : IsIdent n)
    (hus : ∀ t ∈ us.head?, t ≠ symbol ")") (h : readArgs fuel us = some (args, rest)) :
    readAccess (fuel + 1) target (symbol "." :: word n :: symbol "(" :: us) =
      readAccess fuel (.call target n args) rest := by
  rw [readAccess, hn.name?_eq]
  dsimp only [Option.bind_eq_bind, Option.bind_some]
  split
  · next heq =>
    cases heq
    exact absurd rfl (hus _ rfl)
  · next heq =>
    cases heq
    rw [h]
    rfl
  · next hne => exact absurd rfl (hne us)

theorem readPrimary_paren {us : List Token} (h : readLevel fuel 6 us = some (e, symbol ")" :: rest)) :
    readPrimary (fuel + 1) (symbol "(" :: us) = some (e, rest) := by
  rw [readPrimary]
  show (if symbol "(" = symbol "(" then _ else _) = _
  rw [if_pos rfl, h]
  rfl

theorem readRest_operator {op : BinaryOp} {t : Token} {right : Expr} {us : List Token}
    (ht : binaryOp? t = some op) (h : readLevel fuel op.level us = some (right, rest)) :
    readRest (fuel + 1) op.level e (t :: us) = readRest fuel op.level (.binary op e right) rest := by
  rw [readRest, ht]
  dsimp only
  rw [if_pos rfl, h]
  rfl

theorem readArgs_last {us : List Token} (h : readLevel fuel 6 us = some (e, symbol ")" :: rest)) :
    readArgs (fuel + 1) us = some ([e], rest) := by
  rw [readArgs, h]
  rfl

theorem readArgs_more {us vs : List Token} {args : List Expr}
    (h : readLevel fuel 6 us = some (e, symbol "," :: vs)) (hargs : readArgs fuel vs = some (args, rest)) :
    readArgs (fuel + 1) us = some (e :: args, rest) := by
  rw [readArgs, h]
  show (readArgs fuel vs).bind _ = _
  rw [hargs]
  rfl

/-! ### Reading what is written -/

theorem stops_nil (k : Nat) : Stops k [] := nofun

theorem stops_symbol {s : String} (k : Nat) (hs : s ∈ [")", "]", ","]) (rest : List Token) :
    Stops k (symbol s :: rest) := by
  rintro t ⟨⟩
  simp only [List.mem_cons, List.not_mem_nil, or_false] at hs
  rcases hs with rfl | rfl | rfl <;> exact ⟨by decide, by decide, by decide, fun op h => nomatch h⟩

theorem stops_operator {op : BinaryOp} {t : Token} (ht : IsInfix op t) (rest : List Token) :
    Stops op.level (t :: rest) := by
  rintro t ⟨⟩
  have hop := ht.binaryOp?_eq
  refine ⟨?_, ?_, ?_, fun o ho => ?_⟩
  · rintro rfl
    cases hop
  · rintro rfl
    cases hop
  · rintro rfl
    cases hop
  · rw [hop] at ho
    rw [Option.some.inj ho]

theorem readArgs_listed {args : List (Expr × List Token)} (hne : args ≠ [])
    (h : ∀ a ∈ args, a.2 ≠ [] ∧ Reads a.1 a.2 loosest)
    (hfuel : 10 * (listed (args.map Prod.snd)).length + 8 ≤ fuel) :
    readArgs fuel (listed (args.map Prod.snd) ++ symbol ")" :: rest) = some (args.map Prod.fst, rest) := by
  induction args generalizing fuel with
  | nil => exact absurd rfl hne
  | cons a args ih =>
    obtain ⟨hpieces, hreads⟩ := h a (.head _)
    obtain ⟨fuel, rfl⟩ : ∃ f, fuel = f + 1 := Nat.exists_eq_succ_of_ne_zero (by omega)
    cases args with
    | nil =>
      have hfuel : 10 * a.2.length + 8 ≤ fuel + 1 := hfuel
      exact readArgs_last (hreads.readLevel hpieces (by omega) (stops_symbol 6 (by decide) rest))
    | cons b args =>
      have hlength : (listed ((a :: b :: args).map Prod.snd)).length =
          a.2.length + ((listed ((b :: args).map Prod.snd)).length + 1) := by
        rw [List.map_cons, List.map_cons, listed, List.length_append, List.length_cons]
      have hrest : readArgs fuel (listed ((b :: args).map Prod.snd) ++ symbol ")" :: rest) =
          some ((b :: args).map Prod.fst, rest) :=
        ih nofun (fun x hx => h x (.tail _ hx)) (by omega)
      rw [List.map_cons, List.map_cons, listed, List.append_assoc, List.cons_append]
      refine readArgs_more (hreads.readLevel hpieces (by omega) (stops_symbol 6 (by decide) _)) ?_
      simpa using hrest

theorem reads_literal {v : Value} {t : Token} (h : IsLiteral v t) : Reads (.literal v) [t] 0 := by
  intro fuel rest hfuel _
  have hfuel : 10 ≤ fuel := hfuel
  obtain ⟨fuel, rfl⟩ : ∃ f, fuel = f + 2 := ⟨fuel - 2, by omega⟩
  refine ⟨fuel + 1, le_rfl, readUnary_of_primary h.unaryOp?_eq ?_⟩
  rw [readPrimary, h.literal?_eq]
  rfl

theorem reads_name (hn : IsIdent n) : Reads (.name n) [word n] 0 := by
  intro fuel rest hfuel _
  have hfuel : 10 ≤ fuel := hfuel
  obtain ⟨fuel, rfl⟩ : ∃ f, fuel = f + 2 := ⟨fuel - 2, by omega⟩
  refine ⟨fuel + 1, le_rfl, readUnary_of_primary hn.unaryOp?_eq ?_⟩
  rw [readPrimary, hn.literal?_eq]
  dsimp only
  rw [if_neg nofun, hn.name?_eq]
  rfl

theorem Reads.property (h : Reads target ts 0) (hn : IsIdent n) :
    Reads (.property target n) (ts ++ [symbol ".", word n]) 0 := by
  intro fuel rest hfuel hrest
  rw [List.length_append, List.length_cons, List.length_singleton] at hfuel ⊢
  obtain ⟨left, hleft, hread⟩ := h fuel (symbol "." :: word n :: rest) (by omega) (by simp)
  obtain ⟨left, rfl⟩ : ∃ f, left = f + 1 := Nat.exists_eq_succ_of_ne_zero (by omega)
  refine ⟨left, by omega, ?_⟩
  rw [List.append_assoc, List.cons_append, List.singleton_append, hread, readAccess_property hn hrest]

theorem Reads.index {key : Expr} {us : List Token} (h : Reads target ts 0) (hne : us ≠ [])
    (hkey : Reads key us loosest) :
    Reads (.index target key) (ts ++ symbol "[" :: (us ++ [symbol "]"])) 0 := by
  intro fuel rest hfuel _
  rw [List.length_append, List.length_cons, List.length_append, List.length_singleton] at hfuel ⊢
  obtain ⟨left, hleft, hread⟩ :=
    h fuel (symbol "[" :: (us ++ symbol "]" :: rest)) (by omega) (by simp)
  obtain ⟨left, rfl⟩ : ∃ f, left = f + 1 := Nat.exists_eq_succ_of_ne_zero (by omega)
  have hlevel : Expr.readLevel left 6 (us ++ symbol "]" :: rest) = some (key, symbol "]" :: rest) :=
    hkey.readLevel hne (by omega) (stops_symbol 6 (by decide) rest)
  refine ⟨left, by omega, ?_⟩
  rw [List.append_assoc, List.cons_append, List.append_assoc, List.singleton_append, hread,
    readAccess_index hlevel]

theorem Reads.call {args : List (Expr × List Token)} (h : Reads target ts 0) (hn : IsIdent n)
    (hargs : ∀ a ∈ args, a.2 ≠ [] ∧ Reads a.1 a.2 loosest)
    (hopens : ∀ a ∈ args, ∀ t ∈ a.2.head?, t.opens = true) :
    Reads (.call target n (args.map Prod.fst)) (ts ++ symbol "." :: word n :: symbol "(" ::
      (listed (args.map Prod.snd) ++ [symbol ")"])) 0 := by
  intro fuel rest hfuel _
  rw [List.length_append, List.length_cons, List.length_cons, List.length_cons, List.length_append,
    List.length_singleton] at hfuel ⊢
  obtain ⟨left, hleft, hread⟩ := h fuel (symbol "." :: word n :: symbol "(" ::
    (listed (args.map Prod.snd) ++ symbol ")" :: rest)) (by omega) (by simp)
  obtain ⟨left, rfl⟩ : ∃ f, left = f + 1 := Nat.exists_eq_succ_of_ne_zero (by omega)
  refine ⟨left, by omega, ?_⟩
  simp only [List.append_assoc, List.cons_append, List.nil_append]
  rw [hread]
  cases args with
  | nil => exact readAccess_call_nil hn
  | cons a args =>
    refine readAccess_call hn ?_ (readArgs_listed nofun hargs (by omega))
    intro t ht
    have hne := (hargs a (.head _)).1
    rw [List.map_cons, List.head?_append_of_ne_nil, head?_listed hne] at ht
    · rintro rfl
      exact absurd (hopens a (.head _) _ ht) (by decide)
    · intro hnil
      have hhead := head?_listed hne (args.map Prod.snd)
      rw [hnil, List.head?_nil, eq_comm, List.head?_eq_none_iff] at hhead
      exact hne hhead

theorem Reads.unary {op : UnaryOp} {t : Token} (ht : IsPrefix op t) (h : Reads e ts 1) :
    Reads (.unary op e) (t :: ts) 1 := by
  intro fuel rest hfuel hrest
  rw [List.length_cons] at hfuel
  obtain ⟨fuel, rfl⟩ : ∃ f, fuel = f + 1 := Nat.exists_eq_succ_of_ne_zero (by omega)
  rw [List.cons_append, readUnary, ht.unaryOp?_eq]
  dsimp only
  rw [h fuel rest (by omega) hrest]
  rfl

theorem Reads.binary {op : BinaryOp} {t : Token} {right : Expr} {us : List Token} (ht : IsInfix op t)
    (h : Reads e ts (op.level + 2)) (hne : us ≠ []) (hright : Reads right us (op.level + 1)) :
    Reads (.binary op e right) (ts ++ t :: us) (op.level + 2) := by
  intro fuel rest hfuel hrest
  rw [List.length_append, List.length_cons] at hfuel ⊢
  obtain ⟨left, hleft, hread⟩ := h fuel (t :: (us ++ rest)) (by omega) (stops_operator ht _)
  obtain ⟨left, rfl⟩ : ∃ f, left = f + 1 := Nat.exists_eq_succ_of_ne_zero (by omega)
  refine ⟨left, by omega, ?_⟩
  rw [List.append_assoc, List.cons_append, hread]
  exact readRest_operator ht.binaryOp?_eq (hright.readLevel hne (by omega) hrest)

theorem Reads.paren (hne : ts ≠ []) (h : Reads e ts loosest) :
    Reads e (symbol "(" :: (ts ++ [symbol ")"])) 0 := by
  intro fuel rest hfuel _
  rw [List.length_cons, List.length_append, List.length_singleton] at hfuel ⊢
  obtain ⟨fuel, rfl⟩ : ∃ f, fuel = f + 2 := ⟨fuel - 2, by omega⟩
  refine ⟨fuel + 1, by omega, readUnary_of_primary rfl ?_⟩
  show readPrimary (fuel + 1) (symbol "(" :: (ts ++ [symbol ")"] ++ rest)) = _
  rw [List.append_assoc, List.singleton_append]
  exact readPrimary_paren (h.readLevel hne (by omega) (stops_symbol 6 (by decide) rest))

theorem reads_of_writes {m : Nat} (h : Writes m e ts) : Reads e ts m := by
  induction h with
  | literal h => exact (reads_literal h).mono nofun (Nat.zero_le _)
  | name h => exact (reads_name h).mono nofun (Nat.zero_le _)
  | property _ hn ih => exact (ih.property hn).mono (by simp) (Nat.zero_le _)
  | index _ hk iht ihk => exact (iht.index (ne_nil_of_writes hk) ihk).mono (by simp) (Nat.zero_le _)
  | call _ hn ha iht iha =>
    refine (iht.call hn (fun a h => ⟨ne_nil_of_writes (ha a h), iha a h⟩) ?_).mono (by simp)
      (Nat.zero_le _)
    exact fun a h => opens_of_writes (ha a h)
  | unary hm ht _ ih => exact (ih.unary ht).mono nofun hm
  | binary hm ht _ hr ihl ihr => exact (ihl.binary ht (ne_nil_of_writes hr) ihr).mono (by simp) hm
  | paren h ih => exact (ih.paren (ne_nil_of_writes h)).mono nofun (Nat.zero_le _)

theorem ofTokens?_of_writes (h : Writes loosest e ts) : ofTokens? ts = some e := by
  have hfuel : 10 * ts.length + 6 + 1 ≤ fuelFor ts.length := by
    rw [fuelFor]
    omega
  have hread := (reads_of_writes h).readLevel (ne_nil_of_writes h) hfuel (stops_nil 6)
  rw [List.append_nil] at hread
  rw [ofTokens?, hread]

end DynamicSql.Expr
