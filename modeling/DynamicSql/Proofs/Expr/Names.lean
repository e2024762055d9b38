import DynamicSql.Expr.Formula

/-!
# Names in expressions

The names that an expression reports are those that stand somewhere in it, each once, and it depends on nothing
else: wherever these names stand for the same, evaluating it comes to the same value or error
(`Formula.evaluations_congr`).
-/

namespace DynamicSql

namespace Expr

theorem induct {motive : Expr → Prop} (literal : ∀ v, motive (literal v)) (name : ∀ n, motive (name n))
    (property : ∀ target n, motive target → motive (property target n))
    (index : ∀ target key, motive target → motive key → motive (index target key))
    (call : ∀ target method args, motive target → (∀ e ∈ args, motive e) → motive (call target method args))
    (unary : ∀ op operand, motive operand → motive (unary op operand))
    (binary : ∀ op left right, motive left → motive right → motive (binary op left right)) : ∀ e, motive e :=
  @Expr.rec motive (fun args => ∀ e ∈ args, motive e) literal name property index call unary binary
    nofun (fun _ _ he hrest => List.forall_mem_cons.2 ⟨he, hrest⟩)

/-! ### Names that are found -/

/-- The name stands somewhere in the expression. -/
inductive Mentions (n : String) : Expr → Prop
  | name : Mentions n (.name n)
  | property {target : Expr} (field : String) (h : Mentions n target) : Mentions n (.property target field)
  | target {target : Expr} (key : Expr) (h : Mentions n target) : Mentions n (.index target key)
  | key (target : Expr) {key : Expr} (h : Mentions n key) : Mentions n (.index target key)
  | receiver {target : Expr} (method : String) (args : List Expr) (h : Mentions n target) :
      Mentions n (.call target method args)
  | argument (target : Expr) (method : String) {args : List Expr} {e : Expr} (he : e ∈ args) (h : Mentions n e) :
      Mentions n (.call target method args)
  | operand (op : UnaryOp) {operand : Expr} (h : Mentions n operand) : Mentions n (.unary op operand)
  | left (op : BinaryOp) {left : Expr} (right : Expr) (h : Mentions n left) : Mentions n (.binary op left right)
  | right (op : BinaryOp) (left : Expr) {right : Expr} (h : Mentions n right) : Mentions n (.binary op left right)

section

variable {n : String} {found : List String}

theorem not_mentions_literal (v : Value) : ¬ Mentions n (.literal v) := by
  rintro ⟨⟩

theorem mentions_name_iff {m : String} : Mentions n (.name m) ↔ n = m := by
  constructor
  · rintro ⟨⟩
    rfl
  · rintro rfl
    exact .name

theorem mentions_property_iff {target : Expr} {field : String} :
    Mentions n (.property target field) ↔ Mentions n target := by
  constructor
  · rintro ⟨⟩
    assumption
  · exact .property field

theorem mentions_index_iff {target key : Expr} :
    Mentions n (.index target key) ↔ Mentions n target ∨ Mentions n key := by
  constructor
  · intro h
    cases h with
    | target _ h => exact .inl h
    | key _ h => exact .inr h
  · rintro (h | h)
    · exact .target key h
    · exact .key target h

theorem mentions_call_iff {target : Expr} {method : String} {args : List Expr} :
    Mentions n (.call target method args) ↔ Mentions n target ∨ ∃ e ∈ args, Mentions n e := by
  constructor
  · intro h
    cases h with
    | receiver _ _ h => exact .inl h
    | argument _ _ he h => exact .inr ⟨_, he, h⟩
  · rintro (h | ⟨e, he, h⟩)
    · exact .receiver method args h
    · exact .argument target method he h

theorem mentions_unary_iff {op : UnaryOp} {operand : Expr} :
    Mentions n (.unary op operand) ↔ Mentions n operand := by
  constructor
  · rintro ⟨⟩
    assumption
  · exact .operand op

theorem mentions_binary_iff {op : BinaryOp} {left right : Expr} :
    Mentions n (.binary op left right) ↔ Mentions n left ∨ Mentions n right := by
  constructor
  · intro h
    cases h with
    | left _ _ h => exact .inl h
    | right _ _ h => exact .inr h
  · rintro (h | h)
    · exact .left op right h
    · exact .right op left h

theorem mem_addAllNames_of_forall {args : List Expr}
    (h : ∀ e ∈ args, ∀ found, n ∈ addNames found e ↔ n ∈ found ∨ Mentions n e) (found : List String) :
    n ∈ addAllNames found args ↔ n ∈ found ∨ ∃ e ∈ args, Mentions n e := by
  induction args generalizing found with
  | nil =>
    rw [addAllNames]
    simp
  | cons e args ih =>
    obtain ⟨he, hargs⟩ := List.forall_mem_cons.1 h
    simp only [addAllNames, ih hargs, he, or_assoc, List.mem_cons, exists_eq_or_imp]

theorem mem_addNames_iff (e : Expr) (found : List String) : n ∈ addNames found e ↔ n ∈ found ∨ Mentions n e := by
  induction e using induct generalizing found with
  | literal v => rw [addNames, or_iff_left (not_mentions_literal v)]
  | name m =>
    rw [addNames, mentions_name_iff]
    split
    · next hm =>
      rw [or_iff_left_of_imp]
      rintro rfl
      exact hm
    · rw [List.mem_append, List.mem_singleton]
  | property target field ih => rw [addNames, mentions_property_iff, ih]
  | index target key htarget hkey => rw [addNames, mentions_index_iff, hkey, htarget, or_assoc]
  | call target method args htarget hargs =>
    rw [addNames, mentions_call_iff, mem_addAllNames_of_forall hargs, htarget, or_assoc]
  | unary op operand ih => rw [addNames, mentions_unary_iff, ih]
  | binary op left right hleft hright => rw [addNames, mentions_binary_iff, hright, hleft, or_assoc]

theorem mem_names_iff {e : Expr} : n ∈ e.names ↔ e.Mentions n := by
  rw [names, mem_addNames_iff]
  simp

theorem nodup_addAllNames_of_forall {args : List Expr}
    (h : ∀ e ∈ args, ∀ found : List String, found.Nodup → (addNames found e).Nodup) (hfound : found.Nodup) :
    (addAllNames found args).Nodup := by
  induction args generalizing found with
  | nil =>
    rw [addAllNames]
    exact hfound
  | cons e args ih =>
    obtain ⟨he, hargs⟩ := List.forall_mem_cons.1 h
    rw [addAllNames]
    exact ih hargs (he found hfound)

theorem nodup_addNames (e : Expr) (hfound : found.Nodup) : (addNames found e).Nodup := by
  induction e using induct generalizing found with
  | literal v =>
    rw [addNames]
    exact hfound
  | name m =>
    rw [addNames]
    split
    · exact hfound
    · next hm =>
      refine List.nodup_append.2 ⟨hfound, List.pairwise_singleton _ m, fun a ha b hb => ?_⟩
      rintro rfl
      exact hm (List.mem_singleton.1 hb ▸ ha)
  | property target field ih =>
    rw [addNames]
    exact ih hfound
  | index target key htarget hkey =>
    rw [addNames]
    exact hkey (htarget hfound)
  | call target method args htarget hargs =>
    rw [addNames]
    exact nodup_addAllNames_of_forall (fun e he found => hargs e he) (htarget hfound)
  | unary op operand ih =>
    rw [addNames]
    exact ih hfound
  | binary op left right hleft hright =>
    rw [addNames]
    exact hright (hleft hfound)

end

/-! ### Names that are looked up -/

section

variable {lookup₁ lookup₂ : Lookup}

theorem evalArgs_congr {args : List Expr} (h : ∀ e ∈ args, eval lookup₁ e = eval lookup₂ e) :
    evalArgs lookup₁ args = evalArgs lookup₂ args := by
  induction args with
  | nil => rw [evalArgs, evalArgs]
  | cons e args ih =>
    obtain ⟨he, hargs⟩ := List.forall_mem_cons.1 h
    rw [evalArgs, evalArgs, he, ih hargs]

/-- An expression has the same value wherever the names in it stand for the same. -/
theorem eval_congr_of_mentions (e : Expr) (h : ∀ n, e.Mentions n → lookup₁ n = lookup₂ n) :
    eval lookup₁ e = eval lookup₂ e := by
  induction e using induct with
  | literal v => rw [eval, eval]
  | name n =>
    rw [eval, eval]
    exact h n .name
  | property target field ih => rw [eval, eval, ih fun n hn => h n (.property field hn)]
  | index target key htarget hkey =>
    rw [eval, eval, htarget fun n hn => h n (.target key hn), hkey fun n hn => h n (.key target hn)]
  | call target method args htarget hargs =>
    rw [eval, eval, htarget fun n hn => h n (.receiver method args hn),
      evalArgs_congr fun e he => hargs e he fun n hn => h n (.argument target method he hn)]
  | unary op operand ih => rw [eval, eval, ih fun n hn => h n (.operand op hn)]
  | binary op left right hleft hright =>
    rw [eval, eval, hleft fun n hn => h n (.left op right hn), hright fun n hn => h n (.right op left hn)]

theorem eval_congr (e : Expr) (h : ∀ name ∈ e.names, lookup₁ name = lookup₂ name) :
    eval lookup₁ e = eval lookup₂ e :=
  eval_congr_of_mentions e fun n hn => h n (mem_names_iff.2 hn)

end

end Expr

/-! ### Formulas -/

namespace Formula

/-- A formula depends on the names that it reports alone. These are the names that stand in it, each once, and
wherever they stand for the same, or fail alike, evaluating the formula gives the same value or error, be it for
the value itself, for whether it counts as true, or for its items. -/
theorem evaluations_congr (f : Formula) :
    f.expr.names.Nodup ∧ (∀ name, name ∈ f.expr.names ↔ f.expr.Mentions name) ∧
    ∀ lookup₁ lookup₂ : Expr.Lookup, (∀ name ∈ f.expr.names, lookup₁ name = lookup₂ name) →
      f.eval lookup₁ = f.eval lookup₂ ∧ f.evalTruth lookup₁ = f.evalTruth lookup₂ ∧
      f.evalItems lookup₁ = f.evalItems lookup₂ := by
  refine ⟨Expr.nodup_addNames f.expr List.nodup_nil, fun name => Expr.mem_names_iff, ?_⟩
  intro lookup₁ lookup₂ h
  have heval : f.eval lookup₁ = f.eval lookup₂ := Expr.eval_congr f.expr h
  refine ⟨heval, ?_, ?_⟩
  · rw [evalTruth, evalTruth, heval]
  · rw [evalItems, evalItems, heval]

/-- Whether more than `n` ids are given. -/
def moreIds : Formula := ⟨"ids.size() > n", .binary .greater (.call (.name "ids") "size" []) (.name "n")⟩

theorem evaluations_congr_moreIds :
    ∃ lookup₁ lookup₂ : Expr.Lookup, lookup₁ "m" ≠ lookup₂ "m" ∧
      (∀ name ∈ moreIds.expr.names, lookup₁ name = lookup₂ name) ∧
      moreIds.eval lookup₁ = moreIds.eval lookup₂ ∧ moreIds.evalTruth lookup₁ = moreIds.evalTruth lookup₂ ∧
      moreIds.evalItems lookup₁ = moreIds.evalItems lookup₂ := by
  have hnames : ∀ name ∈ moreIds.expr.names, Expr.Lookup.ofTable [("ids", .list []), ("n", .int 1)] name =
      Expr.Lookup.ofTable [("ids", .list []), ("m", .int 2), ("n", .int 1)] name :=
    List.forall_mem_cons.2 ⟨rfl, List.forall_mem_singleton.2 rfl⟩
  refine ⟨_, _, fun h => ?_, hnames, (evaluations_congr moreIds).2.2 _ _ hnames⟩
  cases h

end Formula

end DynamicSql
