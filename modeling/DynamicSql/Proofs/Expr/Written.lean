import DynamicSql.Expr.Parser
import Mathlib.Data.List.Chain

/-!
# Expressions as they are written

`Writes` relates an expression to the sequences of pieces that write it: an operand that is looser than
its place allows stands in parentheses, and operators are symbols or words. `Laid` relates pieces to their
texts: blanks may stand anywhere between pieces and must stand around operators that are words, and a
string is between quotation marks of either kind. `Prints` is both together.

Pieces that write an expression never run together in the text (`chain_of_writes`): where two of them
would, one is an operator that is a word, and a blank stands between them.
-/

namespace DynamicSql.Expr

open Token

/-! ### Pieces and their texts -/

namespace Token

/-- A word: it begins with a character that words begin with, and goes on with those of words. -/
inductive IsWord : String → Prop
  | mk {w : String} {c : Char} {s : List Char} (hw : w.toList = c :: s) (hc : isWordStart c = true)
      (hs : ∀ d ∈ s, isWordChar d = true) : IsWord w

/-- A run of digits and the number it denotes. -/
structure IsDigits (n : Nat) (s : List Char) : Prop where
  ne_nil : s ≠ []
  digits : ∀ c ∈ s, c.isDigit = true
  value : Nat.ofDigitChars 10 s 0 = n

/-- A piece of the kind that texts consist of. -/
inductive IsValid : Token → Prop
  | word {w : String} (h : IsWord w) : IsValid (word w)
  | whole {n : Nat} {s : List Char} (h : IsDigits n s) : IsValid (number s none)
  | fraction {n k : Nat} {s places : List Char} (hs : IsDigits n s) (hplaces : IsDigits k places) :
      IsValid (number s (some places))
  | string (s : String) : IsValid (string s)
  | pair {c d : Char} (h : (c, d) ∈ pairs) : IsValid (symbol (String.ofList [c, d]))
  | single {c : Char} (h : c ∈ singles) : IsValid (symbol (String.ofList [c]))

/-- A character of a string between two of `mark`: a backslash stands before those that would end the
string or begin an escape. -/
def escaped (mark c : Char) : List Char := if c = mark ∨ c = '\\' then ['\\', c] else [c]

/-- The text of a piece; a string stands between two of `mark`. -/
def text (mark : Char) : Token → List Char
  | word w => w.toList
  | number whole none => whole
  | number whole (some places) => whole ++ '.' :: places
  | string s => mark :: (s.toList.flatMap (escaped mark) ++ [mark])
  | symbol s => s.toList

/-- Whether a piece is an operator that is a word. -/
def isOperatorWord : Token → Bool
  | word w => w == "not" || BinaryOp.all.any fun op => op.word? == some w
  | _ => false

/-- The pieces in this order, with blanks anywhere between them and at both ends. A blank stands at least
around operators that are words. -/
inductive Laid : List Token → List Char → Prop
  | nil {gap : List Char} (hgap : ∀ c ∈ gap, isSpace c = true) : Laid [] gap
  | cons {t : Token} {ts : List Token} {mark : Char} {gap rest : List Char}
      (hgap : ∀ c ∈ gap, isSpace c = true) (hmark : mark = '\'' ∨ mark = '"')
      (hblank : ∀ u ∈ ts.head?, (t.isOperatorWord || u.isOperatorWord) = true →
        ∃ c ∈ rest.head?, isSpace c = true)
      (hrest : Laid ts rest) : Laid (t :: ts) (gap ++ (t.text mark ++ rest))

end Token

/-! ### Expressions and their pieces -/

/-- A name: a word that is not taken for an operator or a literal. -/
structure IsIdent (n : String) : Prop where
  word : IsWord n
  free : n ∉ keywords

/-- A literal and the piece that writes it. -/
inductive IsLiteral : Value → Token → Prop
  | null : IsLiteral .null (word "null")
  | boolean (b : Bool) : IsLiteral (.boolean b) (word (cond b "true" "false"))
  | string (s : String) : IsLiteral (.string s) (string s)
  | int {k : Int64} {n : Nat} {s : List Char} (hk : k.toInt = n) (hs : IsDigits n s) :
      IsLiteral (.int k) (number s none)
  /-- A whole number that is too large for 64 bits. -/
  | large {n : Nat} {s : List Char} (hn : 9223372036854775807 < n) (hs : IsDigits n s) :
      IsLiteral (.decimal (.ofInt n)) (number s none)
  | fraction {n k l : Nat} {s places : List Char} (hs : IsDigits k s) (hplaces : IsDigits l places)
      (hn : Nat.ofDigitChars 10 (s ++ places) 0 = n) :
      IsLiteral (.decimal ⟨n, places.length⟩) (number s (some places))

/-- An operator before its operand and the piece that writes it. -/
inductive IsPrefix : UnaryOp → Token → Prop
  | symbol (op : UnaryOp) : IsPrefix op (symbol op.symbol)
  | word : IsPrefix .not (word "not")

/-- An operator between two operands and the piece that writes it. -/
inductive IsInfix : BinaryOp → Token → Prop
  | symbol (op : BinaryOp) : IsInfix op (symbol op.symbol)
  | word {op : BinaryOp} {w : String} (h : op.word? = some w) : IsInfix op (word w)

/-- The rank of the loosest expressions. An operand without operators of its own has rank zero, one behind
an operator has rank one, and the operators between two operands follow in the order of their levels. -/
abbrev loosest : Nat := 7

/-- Lists of pieces with commas between them. -/
def listed : List (List Token) → List Token
  | [] => []
  | [ts] => ts
  | ts :: us :: rest => ts ++ symbol "," :: listed (us :: rest)

/-- The pieces write the expression where one of at most this rank may stand. Parentheses may stand around
every expression, and must stand around those of a higher rank. -/
inductive Writes : Nat → Expr → List Token → Prop
  | literal {m : Nat} {v : Value} {t : Token} (h : IsLiteral v t) : Writes m (.literal v) [t]
  | name {m : Nat} {n : String} (h : IsIdent n) : Writes m (.name n) [word n]
  | property {m : Nat} {target : Expr} {n : String} {ts : List Token} (ht : Writes 0 target ts)
      (hn : IsIdent n) : Writes m (.property target n) (ts ++ [symbol ".", word n])
  | index {m : Nat} {target key : Expr} {ts us : List Token} (ht : Writes 0 target ts)
      (hk : Writes loosest key us) :
      Writes m (.index target key) (ts ++ symbol "[" :: (us ++ [symbol "]"]))
  | call {m : Nat} {target : Expr} {n : String} {ts : List Token} {args : List (Expr × List Token)}
      (ht : Writes 0 target ts) (hn : IsIdent n) (ha : ∀ a ∈ args, Writes loosest a.1 a.2) :
      Writes m (.call target n (args.map Prod.fst))
        (ts ++ symbol "." :: word n :: symbol "(" :: (listed (args.map Prod.snd) ++ [symbol ")"]))
  | unary {m : Nat} {op : UnaryOp} {t : Token} {operand : Expr} {ts : List Token} (hm : 1 ≤ m)
      (ht : IsPrefix op t) (ho : Writes 1 operand ts) : Writes m (.unary op operand) (t :: ts)
  | binary {m : Nat} {op : BinaryOp} {t : Token} {left right : Expr} {ts us : List Token}
      (hm : op.level + 2 ≤ m) (ht : IsInfix op t) (hl : Writes (op.level + 2) left ts)
      (hr : Writes (op.level + 1) right us) : Writes m (.binary op left right) (ts ++ t :: us)
  | paren {m : Nat} {e : Expr} {ts : List Token} (h : Writes loosest e ts) :
      Writes m e (symbol "(" :: (ts ++ [symbol ")"]))

/-- The text is a way to write the expression. -/
def Prints (e : Expr) (text : String) : Prop := ∃ ts, Writes loosest e ts ∧ Laid ts text.toList

/-! ### Pieces that would run together -/

namespace Token

/-- Whether two pieces would be read differently without a blank between them. -/
def joins : Token → Token → Bool
  | word _, word _ | word _, number .. | number .., word _ | number .., number .. => true
  | symbol s, symbol t => ["!", "<", ">"].contains s && t == "=="
  | symbol s, number .. => s == "."
  | _, _ => false

/-- The pieces do not run together, or a blank is due between them. -/
def Apart (t u : Token) : Prop := t.joins u = true → (t.isOperatorWord || u.isOperatorWord) = true

/-- Whether an expression may begin with a piece. -/
def opens : Token → Bool
  | symbol s => ["(", "!", "-"].contains s
  | _ => true

/-- Whether an expression may end with a piece. -/
def closes : Token → Bool
  | symbol s => [")", "]"].contains s
  | _ => true

theorem apart_of_closes {t : Token} (h : t.closes = true) (s : String) : Apart t (symbol s) := by
  cases t with
  | symbol r =>
    intro hj
    obtain ⟨hr, -⟩ := Bool.and_eq_true_iff.1 hj
    have hclose : r = ")" ∨ r = "]" := by simpa [closes] using h
    rcases hclose with rfl | rfl <;> exact absurd hr (by decide)
  | _ => exact nofun

theorem apart_of_opens {u : Token} (h : u.opens = true) {s : String} (hs : s ≠ ".") :
    Apart (symbol s) u := by
  cases u with
  | symbol r =>
    intro hj
    obtain ⟨-, hr⟩ := Bool.and_eq_true_iff.1 hj
    obtain rfl := eq_of_beq hr
    exact absurd h (by decide)
  | number whole fraction => exact fun hj => absurd (eq_of_beq hj) hs
  | _ => exact nofun

theorem apart_paren (u : Token) : Apart (symbol "(") u := by
  intro hj
  cases u <;> exact absurd hj (by simp [joins])

theorem apart_word (s w : String) : Apart (symbol s) (word w) := nofun

/-- Pieces in an order in which they may stand, up to one that an expression may end with. -/
structure IsRun (ts : List Token) : Prop where
  ne_nil : ts ≠ []
  valid : ∀ t ∈ ts, t.IsValid
  chain : ts.IsChain Apart
  closes : ∀ t ∈ ts.getLast?, t.closes = true

theorem IsRun.single {t : Token} (hv : t.IsValid) (hc : t.closes = true) : IsRun [t] where
  ne_nil := nofun
  valid := List.forall_mem_singleton.2 hv
  chain := .singleton t
  closes := by simpa using hc

theorem IsRun.cons {t : Token} {ts : List Token} (hv : t.IsValid) (h : IsRun ts)
    (ht : ∀ u ∈ ts.head?, Apart t u) : IsRun (t :: ts) where
  ne_nil := nofun
  valid := List.forall_mem_cons.2 ⟨hv, h.valid⟩
  chain := List.isChain_cons.2 ⟨ht, h.chain⟩
  closes := by
    obtain ⟨u, us, rfl⟩ := List.exists_cons_of_ne_nil h.ne_nil
    simpa using h.closes

theorem IsRun.append {ts us : List Token} (hts : IsRun ts) (hus : IsRun us)
    (h : ∀ t, t.closes = true → ∀ u ∈ us.head?, Apart t u) : IsRun (ts ++ us) where
  ne_nil := List.append_ne_nil_of_left_ne_nil hts.ne_nil us
  valid := List.forall_mem_append.2 ⟨hts.valid, hus.valid⟩
  chain := List.isChain_append.2 ⟨hts.chain, hus.chain, fun t ht => h t (hts.closes t ht)⟩
  closes := by
    rw [List.getLast?_append_of_ne_nil ts hus.ne_nil]
    exact hus.closes

theorem IsRun.join {ts us : List Token} {s : String} (hts : IsRun ts) (hus : IsRun us)
    (hs : (symbol s).IsValid) (h : ∀ u ∈ us.head?, Apart (symbol s) u) :
    IsRun (ts ++ symbol s :: us) :=
  hts.append (hus.cons hs h) fun _ ht u hu => by
    obtain rfl : symbol s = u := by simpa using hu
    exact apart_of_closes ht s

end Token

/-! ### What writes an expression -/

theorem isWord_of_all {w : String}
    (h : (w.toList.head?.any isWordStart && w.toList.all isWordChar) = true) : IsWord w := by
  obtain ⟨hhead, hall⟩ := Bool.and_eq_true_iff.1 h
  cases hw : w.toList with
  | nil => rw [hw] at hhead; cases hhead
  | cons c s =>
    rw [hw] at hhead hall
    exact .mk hw hhead fun d hd => List.all_eq_true.1 hall d (.tail _ hd)

theorem IsLiteral.isValid {v : Value} {t : Token} (h : IsLiteral v t) : t.IsValid := by
  cases h with
  | null => exact .word (isWord_of_all (by decide))
  | boolean b => cases b <;> exact .word (isWord_of_all (by decide))
  | string s => exact .string s
  | int _ hs | large _ hs => exact .whole hs
  | fraction hs hplaces => exact .fraction hs hplaces

theorem IsLiteral.opens {v : Value} {t : Token} (h : IsLiteral v t) : t.opens = true := by
  cases h <;> rfl

theorem IsLiteral.closes {v : Value} {t : Token} (h : IsLiteral v t) : t.closes = true := by
  cases h <;> rfl

theorem IsPrefix.isValid {op : UnaryOp} {t : Token} (h : IsPrefix op t) : t.IsValid := by
  cases h with
  | symbol => cases op <;> exact .single (by decide)
  | word => exact .word (isWord_of_all (by decide))

theorem IsPrefix.opens {op : UnaryOp} {t : Token} (h : IsPrefix op t) : t.opens = true := by
  cases h with
  | symbol => cases op <;> rfl
  | word => rfl

theorem IsPrefix.apart {op : UnaryOp} {t u : Token} (h : IsPrefix op t) (hu : u.opens = true) :
    Apart t u := by
  cases h with
  | symbol => exact apart_of_opens hu (by cases op <;> decide)
  | word => exact fun _ => rfl

theorem IsInfix.isValid {op : BinaryOp} {t : Token} (h : IsInfix op t) : t.IsValid := by
  cases h with
  | symbol => cases op <;> first | exact .pair (by decide) | exact .single (by decide)
  | word hw => cases op <;> cases hw <;> exact .word (isWord_of_all (by decide))

theorem IsInfix.apart_left {op : BinaryOp} {t u : Token} (h : IsInfix op t) (hu : u.closes = true) :
    Apart u t := by
  cases h with
  | symbol => exact apart_of_closes hu op.symbol
  | word hw =>
    intro _
    cases op <;> cases hw <;> exact Bool.or_true _

theorem IsInfix.apart_right {op : BinaryOp} {t u : Token} (h : IsInfix op t) (hu : u.opens = true) :
    Apart t u := by
  cases h with
  | symbol => exact apart_of_opens hu (by cases op <;> decide)
  | word hw =>
    intro _
    cases op <;> cases hw <;> rfl

theorem ne_nil_of_writes {m : Nat} {e : Expr} {ts : List Token} (h : Writes m e ts) : ts ≠ [] := by
  cases h <;> simp

theorem opens_of_writes {m : Nat} {e : Expr} {ts : List Token} (h : Writes m e ts) :
    ∀ t ∈ ts.head?, t.opens = true := by
  induction h with
  | literal h => simpa using h.opens
  | name | paren => simp [opens]
  | property ht _ ih | index ht _ ih | call ht _ _ ih | binary _ _ ht _ ih =>
    rw [List.head?_append_of_ne_nil _ (ne_nil_of_writes ht)]
    exact ih
  | unary _ ht => simpa using ht.opens

theorem head?_listed {ts : List Token} (hts : ts ≠ []) (l : List (List Token)) :
    (listed (ts :: l)).head? = ts.head? := by
  cases l with
  | nil => rfl
  | cons us l => exact List.head?_append_of_ne_nil ts hts

theorem isRun_listed {l : List (List Token)} (hl : l ≠ []) (h : ∀ ts ∈ l, IsRun ts)
    (hopens : ∀ ts ∈ l, ∀ t ∈ ts.head?, t.opens = true) : IsRun (listed l) := by
  induction l with
  | nil => exact absurd rfl hl
  | cons ts l ih =>
    have hts := h ts (.head _)
    cases l with
    | nil => exact hts
    | cons us l =>
      have hrun := ih nofun (fun x hx => h x (.tail _ hx)) fun x hx => hopens x (.tail _ hx)
      refine hts.join hrun (.single (by decide)) fun u hu => ?_
      rw [head?_listed (h us (.tail _ (.head _))).ne_nil] at hu
      exact apart_of_opens (hopens us (.tail _ (.head _)) u hu) (by decide)

theorem isRun_close {s : String} (hv : (symbol s).IsValid) (hc : (symbol s).closes = true)
    {ts : List Token} (hts : IsRun ts) : IsRun (ts ++ [symbol s]) :=
  hts.append (.single hv hc) fun t ht u hu => by
    obtain rfl : symbol s = u := by simpa using hu
    exact apart_of_closes ht s

theorem isRun_of_writes {m : Nat} {e : Expr} {ts : List Token} (h : Writes m e ts) : IsRun ts := by
  have hcloseParen : (symbol ")").IsValid := .single (by decide)
  have hcloseBracket : (symbol "]").IsValid := .single (by decide)
  induction h with
  | literal h => exact .single h.isValid h.closes
  | name h => exact .single (.word h.word) rfl
  | property _ hn ih =>
    refine ih.join (.single (.word hn.word) rfl) (.single (by decide)) fun u hu => ?_
    obtain rfl := Option.some.inj hu
    exact apart_word _ _
  | index _ hk iht ihk =>
    refine iht.join (isRun_close hcloseBracket rfl ihk) (.single (by decide)) fun u hu => ?_
    rw [List.head?_append_of_ne_nil _ (ne_nil_of_writes hk)] at hu
    exact apart_of_opens (opens_of_writes hk u hu) (by decide)
  | @call m target n ts args ht hn ha iht iha =>
    have hargs : IsRun (listed (args.map Prod.snd) ++ [symbol ")"]) := by
      by_cases hnil : args = []
      · rw [hnil]
        exact .single hcloseParen rfl
      · refine isRun_close hcloseParen rfl (isRun_listed (by simpa using hnil) ?_ ?_)
        · exact List.forall_mem_map.2 iha
        · exact List.forall_mem_map.2 fun a h => opens_of_writes (ha a h)
    have htail := (hargs.cons (.single (by decide)) fun u _ => apart_paren u).cons (.word hn.word)
      fun u hu => by
        obtain rfl := Option.some.inj hu
        exact apart_of_closes rfl _
    refine iht.join htail (.single (by decide)) fun u hu => ?_
    obtain rfl := Option.some.inj hu
    exact apart_word _ _
  | unary _ ht ho ih => exact ih.cons ht.isValid fun u hu => ht.apart (opens_of_writes ho u hu)
  | binary _ ht _ hr ihl ihr =>
    refine ihl.append (ihr.cons ht.isValid fun u hu => ht.apart_right (opens_of_writes hr u hu)) ?_
    intro t hclose u hu
    obtain rfl := Option.some.inj hu
    exact ht.apart_left hclose
  | paren h ih =>
    refine (isRun_close hcloseParen rfl ih).cons (.single (by decide)) fun u hu => ?_
    rw [List.head?_append_of_ne_nil _ (ne_nil_of_writes h)] at hu
    exact apart_of_opens (opens_of_writes h u hu) (by decide)

end DynamicSql.Expr
