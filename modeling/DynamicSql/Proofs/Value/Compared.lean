import DynamicSql.Expr.Operator
import DynamicSql.Proofs.Path.Atomic
import DynamicSql.Proofs.Value.Document
import DynamicSql.Proofs.Value.Exact

/-!
# Comparisons

Values without floats are ordered consistently (`Value.order?_consistent`): what compares in one direction compares in
the other, comparisons can be chained, numbers of all kinds compare by the exact number, loose equality is an
equivalence, and of values that compare exactly one is less, or greater, or they are equal.
-/

namespace DynamicSql

open Number

/-! ### Orders -/

/-- How the first of three things compares with the last, if it compares with the second by `o` and the second
compares with the last by `p`. Nothing follows if they go up and then down. -/
structure Follows (o p q : Ordering) : Prop where
  same : o = p → q = o
  left : o = .eq → q = p
  right : p = .eq → q = o

section Orders

variable {α : Type} (cmp : α → α → Ordering)

theorem swap_order [Std.OrientedCmp cmp] (a b : α) : (cmp a b).swap = cmp b a := Std.OrientedCmp.eq_swap.symm

theorem follows_order [Std.TransCmp cmp] (a b c : α) : Follows (cmp a b) (cmp b c) (cmp a c) where
  same h := by
    cases hab : cmp a b with
    | lt => exact Std.TransCmp.lt_trans hab (h ▸ hab)
    | eq => exact Std.TransCmp.eq_trans hab (h ▸ hab)
    | gt => exact Std.TransCmp.gt_trans hab (h ▸ hab)
  left h := Std.TransCmp.congr_left h
  right h := (Std.TransCmp.congr_right h).symm

end Orders

instance : Std.TransCmp Uuid.order :=
  inferInstanceAs (Std.TransCmp (compareOn fun u : Uuid => u.bits.toNat))

instance : Std.TransCmp Calendar.Date.order :=
  inferInstanceAs (Std.TransCmp (compareLex (compareOn Calendar.Date.year)
    (compareLex (compareOn Calendar.Date.month) (compareOn Calendar.Date.day))))

instance : Std.TransCmp Calendar.Clock.order :=
  inferInstanceAs (Std.TransCmp (compareLex (compareOn Calendar.Clock.second) (compareOn Calendar.Clock.nanos)))

theorem transCmp_on {α β : Type} (f : α → β) (cmp : β → β → Ordering) [Std.TransCmp cmp] :
    Std.TransCmp fun a b => cmp (f a) (f b) where
  eq_swap := Std.OrientedCmp.eq_swap
  isLE_trans := Std.TransCmp.isLE_trans

instance : Std.TransCmp Calendar.DateTime.order :=
  have := transCmp_on Calendar.DateTime.date Calendar.Date.order
  have := transCmp_on Calendar.DateTime.clock Calendar.Clock.order
  inferInstanceAs (Std.TransCmp (compareLex (fun a b : Calendar.DateTime => a.date.order b.date)
    fun a b => a.clock.order b.clock))

theorem Text.orderBytes_eq (a b : List UInt8) : orderBytes a b = List.compareLex (compareOn UInt8.toNat) a b := by
  induction a generalizing b with
  | nil => cases b <;> rfl
  | cons o a ih =>
    cases b with
    | nil => rfl
    | cons p b =>
      rw [orderBytes, ih, List.compareLex_cons_cons]
      rfl

instance : Std.TransCmp Text.orderBytes := by
  rw [show Text.orderBytes = List.compareLex (compareOn UInt8.toNat) from funext fun a => funext (Text.orderBytes_eq a)]
  infer_instance

namespace Value

variable {a b c v w : Value} {o p : Ordering} {x y : ℚ}

/-! ### What compares -/

/-- The values compare so: numbers by the numbers that they denote, and other values with those of their kind. -/
inductive Compares : Value → Value → Ordering → Prop
  | numbers {a b : Value} {x y : ℚ} (ha : a.number? = some x) (hb : b.number? = some y) : Compares a b (compare x y)
  | strings (a b : String) : Compares (.string a) (.string b) (compare a b)
  | booleans (a b : Bool) : Compares (.boolean a) (.boolean b) (compare a b)
  | uuids (a b : Uuid) : Compares (.uuid a) (.uuid b) (a.order b)
  | dates (a b : Calendar.Date) : Compares (.date a) (.date b) (a.order b)
  | timestamps (a b : Calendar.DateTime) : Compares (.timestamp a) (.timestamp b) (a.order b)
  | naives (a b : Calendar.DateTime) : Compares (.timestampNaive a) (.timestampNaive b) (a.order b)
  | octets (a b : List UInt8) : Compares (.bytes a) (.bytes b) (Text.orderBytes a b)

theorem Compares.swap (h : Compares a b o) : Compares b a o.swap := by
  cases h with
  | @numbers _ _ x y ha hb => exact swap_order compare x y ▸ .numbers hb ha
  | strings a b => exact swap_order compare a b ▸ .strings b a
  | booleans a b => exact swap_order compare a b ▸ .booleans b a
  | uuids a b => exact swap_order Uuid.order a b ▸ .uuids b a
  | dates a b => exact swap_order Calendar.Date.order a b ▸ .dates b a
  | timestamps a b => exact swap_order Calendar.DateTime.order a b ▸ .timestamps b a
  | naives a b => exact swap_order Calendar.DateTime.order a b ▸ .naives b a
  | octets a b => exact swap_order Text.orderBytes a b ▸ .octets b a

/-- Numbers compare with numbers only, and other values with those of their kind only, so two comparisons always
meet at a value of one kind. -/
theorem Compares.trans (hab : Compares a b o) (hbc : Compares b c p) : ∃ q, Compares a c q ∧ Follows o p q := by
  cases hab with
  | @numbers _ _ x y ha hb =>
    cases hbc with
    | @numbers _ _ y' z hb' hc =>
      obtain rfl := Option.some.inj (hb.symm.trans hb')
      exact ⟨_, .numbers ha hc, follows_order compare x y z⟩
    | _ => cases hb
  | strings a b =>
    cases hbc with
    | numbers hb => cases hb
    | strings _ c => exact ⟨_, .strings a c, follows_order compare a b c⟩
  | booleans a b =>
    cases hbc with
    | numbers hb => cases hb
    | booleans _ c => exact ⟨_, .booleans a c, follows_order compare a b c⟩
  | uuids a b =>
    cases hbc with
    | numbers hb => cases hb
    | uuids _ c => exact ⟨_, .uuids a c, follows_order Uuid.order a b c⟩
  | dates a b =>
    cases hbc with
    | numbers hb => cases hb
    | dates _ c => exact ⟨_, .dates a c, follows_order Calendar.Date.order a b c⟩
  | timestamps a b =>
    cases hbc with
    | numbers hb => cases hb
    | timestamps _ c => exact ⟨_, .timestamps a c, follows_order Calendar.DateTime.order a b c⟩
  | naives a b =>
    cases hbc with
    | numbers hb => cases hb
    | naives _ c => exact ⟨_, .naives a c, follows_order Calendar.DateTime.order a b c⟩
  | octets a b =>
    cases hbc with
    | numbers hb => cases hb
    | octets _ c => exact ⟨_, .octets a c, follows_order Text.orderBytes a b c⟩

theorem order?_of_decimal (h : (∃ d, a = .decimal d) ∨ ∃ d, b = .decimal d) :
    a.order? b = do return (← a.decimal?).order (← b.decimal?) := by
  rcases h with ⟨d, rfl⟩ | ⟨d, rfl⟩
  · cases b <;> rfl
  · cases a <;> rfl

theorem order?_of_number? (ha : a.number? = some x) (hb : b.number? = some y) : a.order? b = some (compare x y) := by
  have hdecimal (h : (∃ d, a = .decimal d) ∨ ∃ d, b = .decimal d) : a.order? b = some (compare x y) := by
    obtain ⟨d, hd, rfl⟩ := decimal?_of_number? ha
    obtain ⟨e, he, rfl⟩ := decimal?_of_number? hb
    rw [order?_of_decimal h, hd, he, ← Decimal.order_eq]
    rfl
  rcases number?_eq_some_iff.1 ha with ⟨m, hm, rfl⟩ | ⟨d, rfl, rfl⟩
  · rcases number?_eq_some_iff.1 hb with ⟨n, hn, rfl⟩ | ⟨e, rfl, rfl⟩
    · have hcast : compare (m : ℚ) n = compare m n := by
        rw [← cmp_eq_compare, ← cmp_eq_compare, (Int.cast_strictMono (R := ℚ)).cmp_map_eq]
      rw [hcast, order?, hm, hn]
    · exact hdecimal (.inr ⟨e, rfl⟩)
  · exact hdecimal (.inl ⟨d, rfl⟩)

/-- Apart from floats, what is compared is what compares. -/
theorem order?_eq_some_iff (ha : ∀ x, a ≠ .float x) (hb : ∀ x, b ≠ .float x) :
    a.order? b = some o ↔ Compares a b o := by
  constructor
  · intro h
    have hnumbers : ∀ x y : ℚ, a.number? = some x → b.number? = some y → Compares a b o := by
      intro x y hx hy
      obtain rfl := Option.some.inj ((order?_of_number? hx hy).symm.trans h)
      exact .numbers hx hy
    cases a with
    | float x => exact absurd rfl (ha x)
    | smallInt | int32 | int | decimal =>
      cases b with
      | float y => exact absurd rfl (hb y)
      | smallInt | int32 | int | decimal => exact hnumbers _ _ rfl rfl
      | _ => cases h
    | _ =>
      -- what is not a number compares with values of its kind only
      cases b <;> first | (cases h; done) | (cases h; constructor)
  · intro h
    cases h with
    | numbers hx hy => exact order?_of_number? hx hy
    | _ => rfl

end Value

/-! ### What is equal -/

namespace Json

variable {j k : Json} {items others : List Json} {fields : List (String × Json)}

theorem beqItems_iff_eq (h : ∀ j ∈ items, ∀ k, beq j k = true ↔ j = k) :
    beqItems items others = true ↔ items = others := by
  induction items generalizing others with
  | nil => cases others <;> simp [beqItems]
  | cons j items ih =>
    obtain ⟨hj, hitems⟩ := List.forall_mem_cons.1 h
    cases others with
    | nil => simp [beqItems]
    | cons k others => rw [beqItems, Bool.and_eq_true, hj, ih hitems, List.cons.injEq]

theorem beqFields_iff_eq {others : List (String × Json)} (h : ∀ f ∈ fields, ∀ k, beq f.2 k = true ↔ f.2 = k) :
    beqFields fields others = true ↔ fields = others := by
  induction fields generalizing others with
  | nil => cases others <;> simp [beqFields]
  | cons f fields ih =>
    obtain ⟨hf, hfields⟩ := List.forall_mem_cons.1 h
    cases others with
    | nil => simp [beqFields]
    | cons g others =>
      rw [beqFields, Bool.and_eq_true, Bool.and_eq_true, hf, ih hfields, beq_iff_eq, List.cons.injEq, Prod.ext_iff]

theorem beq_iff_eq_of_whole (h : j.AllNumbers JsonNumber.IsWhole) : (j == k) = true ↔ j = k := by
  show beq j k = true ↔ j = k
  induction h generalizing k with
  | null | bool | string => cases k <;> simp [beq]
  | @number n hn =>
    cases k with
    | number m =>
      cases n with
      | integer n => cases m <;> simp [beq, BEq.beq, JsonNumber.beq]
      | float x => exact hn.elim
    | _ => simp [beq]
  | array _ ih => cases k <;> simp [beq, beqItems_iff_eq fun j hj k => ih j hj]
  | object _ ih => cases k <;> simp [beq, beqFields_iff_eq fun f hf k => ih f hf]

end Json

namespace Value

variable {a b c v w : Value} {o p : Ordering} {x y : ℚ}

/-- No float is in the value, and none in a document in it. -/
inductive FloatFree : Value → Prop
  | intro {v : Value} (hfloat : ∀ x, v ≠ .float x) (hjson : ∀ j, v = .json j → j.AllNumbers JsonNumber.IsWhole)
      (hparts : ∀ w ∈ v.parts, FloatFree w) : FloatFree v

/-- What a value is apart from its parts: for a decimal the number that it denotes, and for a value made of others
that value with nothing in it. -/
def shell : Value → ℚ ⊕ Value
  | decimal d => .inl d.toRat
  | list _ => .inr (list [])
  | set _ => .inr (set [])
  | map entries => .inr (map ((Table.keys entries).map fun k => (k, null)))
  | record schema _ => .inr (record schema [])
  | v => .inr v

theorem beqItems_iff {items others : List Value} :
    beqItems items others = true ↔ List.Forall₂ (fun a b => (a == b) = true) items others := by
  induction items generalizing others with
  | nil => cases others <;> simp [beqItems]
  | cons v items ih =>
    cases others with
    | nil => simp [beqItems]
    | cons w others =>
      rw [beqItems, Bool.and_eq_true, ih, List.forall₂_cons]
      rfl

theorem beqEntries_iff {entries others : Table String Value} :
    beqEntries entries others = true ↔
      entries.keys = others.keys ∧ List.Forall₂ (fun a b => (a == b) = true) entries.values others.values := by
  induction entries generalizing others with
  | nil => cases others <;> simp [beqEntries, Table.keys, Table.values]
  | cons e entries ih =>
    cases others with
    | nil => simp [beqEntries, Table.keys]
    | cons f others =>
      simp only [Table.keys, Table.values] at ih ⊢
      rw [beqEntries, Bool.and_eq_true, Bool.and_eq_true, ih, beq_iff_eq, and_and_and_comm, List.map_cons,
        List.map_cons, List.map_cons, List.map_cons, List.cons_eq_cons, List.forall₂_cons]
      rfl

theorem beq_iff (hfloat : ∀ x, v ≠ .float x) (hjson : ∀ j, v = .json j → j.AllNumbers JsonNumber.IsWhole) :
    (v == w) = true ↔ v.shell = w.shell ∧ List.Forall₂ (fun a b => (a == b) = true) v.parts w.parts := by
  show v.beq w = true ↔ _
  cases v with
  | float x => exact absurd rfl (hfloat x)
  | decimal d => cases w <;> simp [beq, shell, parts, Decimal.sameNumber_iff]
  | json j => cases w <;> simp [beq, shell, parts, Json.beq_iff_eq_of_whole (hjson j rfl)]
  | list => cases w <;> simp [beq, shell, parts, beqItems_iff]
  | set => cases w <;> simp [beq, shell, parts, beqItems_iff]
  | record => cases w <;> simp [beq, shell, parts, beqItems_iff]
  | map =>
    have hempty : Function.Injective fun key : String => (key, Value.null) := fun _ _ h => congrArg Prod.fst h
    cases w <;> simp [beq, shell, parts, beqEntries_iff, List.map_inj_right hempty]
  | _ => cases w <;> simp [beq, shell, parts]

theorem FloatFree.ne_float (h : v.FloatFree) (x : Float) : v ≠ .float x := by
  obtain ⟨hfloat, -, -⟩ := h
  exact hfloat x

theorem FloatFree.of_mem (h : v.FloatFree) (hw : w ∈ v.parts) : w.FloatFree := by
  obtain ⟨-, -, hparts⟩ := h
  exact hparts w hw

theorem FloatFree.beq_iff (h : v.FloatFree) :
    (v == w) = true ↔ v.shell = w.shell ∧ v.parts.length = w.parts.length ∧
      ∀ i hv hw, (v.parts.get ⟨i, hv⟩ == w.parts.get ⟨i, hw⟩) = true := by
  obtain ⟨hfloat, hjson, -⟩ := h
  rw [Value.beq_iff hfloat hjson, List.forall₂_iff_get]

theorem FloatFree.beq_refl (h : v.FloatFree) : (v == v) = true := by
  induction h with
  | intro hfloat hjson hparts ih =>
    rw [(FloatFree.intro hfloat hjson hparts).beq_iff]
    exact ⟨rfl, rfl, fun i hv _ => ih _ (List.get_mem _ _)⟩

theorem FloatFree.beq_symm (hv : v.FloatFree) (hw : w.FloatFree) (h : (v == w) = true) : (w == v) = true := by
  induction hv generalizing w with
  | intro hfloat hjson hparts ih =>
    obtain ⟨hshell, hlength, hequal⟩ := (FloatFree.intro hfloat hjson hparts).beq_iff.1 h
    refine hw.beq_iff.2 ⟨hshell.symm, hlength.symm, fun i hi hj => ?_⟩
    exact ih _ (List.get_mem _ _) (hw.of_mem (List.get_mem _ _)) (hequal i hj hi)

theorem FloatFree.beq_trans (ha : a.FloatFree) (hb : b.FloatFree) (hab : (a == b) = true)
    (hbc : (b == c) = true) : (a == c) = true := by
  induction ha generalizing b c with
  | intro hfloat hjson hparts ih =>
    have ha := FloatFree.intro hfloat hjson hparts
    obtain ⟨hshell, hlength, hequal⟩ := ha.beq_iff.1 hab
    obtain ⟨hshell', hlength', hequal'⟩ := hb.beq_iff.1 hbc
    refine ha.beq_iff.2 ⟨hshell.trans hshell', hlength.trans hlength', fun i hi hk => ?_⟩
    have hj : i < b.parts.length := hlength ▸ hi
    exact ih _ (List.get_mem _ _) (hb.of_mem (List.get_mem _ _)) (hequal i hi hj) (hequal' i hj hk)

/-! ### Order and loose equality -/

theorem FloatFree.order?_iff (ha : a.FloatFree) (hb : b.FloatFree) : a.order? b = some o ↔ Compares a b o :=
  order?_eq_some_iff ha.ne_float hb.ne_float

theorem FloatFree.order?_swap (ha : a.FloatFree) (hb : b.FloatFree) :
    b.order? a = (a.order? b).map Ordering.swap := by
  have hswap {v w : Value} (hv : v.FloatFree) (hw : w.FloatFree) {o : Ordering} (h : v.order? w = some o) :
      w.order? v = some o.swap := (hw.order?_iff hv).2 ((hv.order?_iff hw).1 h).swap
  cases h : a.order? b with
  | some o => exact hswap ha hb h
  | none =>
    cases h' : b.order? a with
    | some o => rw [hswap hb ha h'] at h; cases h
    | none => rfl

theorem FloatFree.order?_trans (ha : a.FloatFree) (hb : b.FloatFree) (hc : c.FloatFree)
    (hab : a.order? b = some o) (hbc : b.order? c = some p) : ∃ q, a.order? c = some q ∧ Follows o p q := by
  obtain ⟨q, hac, hfollows⟩ := ((ha.order?_iff hb).1 hab).trans ((hb.order?_iff hc).1 hbc)
  exact ⟨q, (ha.order?_iff hc).2 hac, hfollows⟩

theorem Compares.of_beq (h : Compares a b o) (hac : (a == c) = true) : ∃ p, Compares a c p := by
  cases h with
  | numbers hx _ =>
    cases a with
    | smallInt | int32 | int | decimal => cases c <;> first | cases hac | exact ⟨_, .numbers hx rfl⟩
    | _ => cases hx
  | strings a => cases c <;> first | cases hac | exact ⟨_, .strings a _⟩
  | booleans a => cases c <;> first | cases hac | exact ⟨_, .booleans a _⟩
  | uuids a => cases c <;> first | cases hac | exact ⟨_, .uuids a _⟩
  | dates a => cases c <;> first | cases hac | exact ⟨_, .dates a _⟩
  | timestamps a => cases c <;> first | cases hac | exact ⟨_, .timestamps a _⟩
  | naives a => cases c <;> first | cases hac | exact ⟨_, .naives a _⟩
  | octets a => cases c <;> first | cases hac | exact ⟨_, .octets a _⟩

theorem FloatFree.order?_of_beq (ha : a.FloatFree) (hb : b.FloatFree) (hc : c.FloatFree) (h : a.order? b = some o)
    (hac : (a == c) = true) : ∃ p, a.order? c = some p := by
  obtain ⟨p, hp⟩ := ((ha.order?_iff hb).1 h).of_beq hac
  exact ⟨p, (ha.order?_iff hc).2 hp⟩

theorem looselyEqual_iff :
    a.looselyEqual b = true ↔ a.order? b = some .eq ∨ a.order? b = none ∧ (a == b) = true := by
  rw [looselyEqual]
  cases a.order? b <;> simp

theorem FloatFree.looselyEqual_refl (h : v.FloatFree) : v.looselyEqual v = true := by
  refine looselyEqual_iff.2 ?_
  cases ho : v.order? v with
  | none => exact .inr ⟨rfl, h.beq_refl⟩
  | some o =>
    have hswap := h.order?_swap h
    rw [ho] at hswap
    cases o with
    | eq => exact .inl rfl
    | lt | gt => cases hswap

theorem FloatFree.looselyEqual_symm (ha : a.FloatFree) (hb : b.FloatFree) (h : a.looselyEqual b = true) :
    b.looselyEqual a = true := by
  rw [looselyEqual_iff, ha.order?_swap hb]
  rcases looselyEqual_iff.1 h with heq | ⟨hnone, hbeq⟩
  · rw [heq]
    exact .inl rfl
  · rw [hnone]
    exact .inr ⟨rfl, ha.beq_symm hb hbeq⟩

theorem FloatFree.looselyEqual_trans (ha : a.FloatFree) (hb : b.FloatFree) (hc : c.FloatFree)
    (hab : a.looselyEqual b = true) (hbc : b.looselyEqual c = true) : a.looselyEqual c = true := by
  refine looselyEqual_iff.2 ?_
  rcases looselyEqual_iff.1 hab with hab | ⟨hnone, hab⟩
  · rcases looselyEqual_iff.1 hbc with hbc | ⟨hnone', hbc⟩
    · obtain ⟨q, hac, hfollows⟩ := ha.order?_trans hb hc hab hbc
      exact .inl (hfollows.same rfl ▸ hac)
    · have hba : b.order? a = some .eq := by rw [ha.order?_swap hb, hab]; rfl
      obtain ⟨p, hp⟩ := hb.order?_of_beq ha hc hba hbc
      cases hnone'.symm.trans hp
  · rcases looselyEqual_iff.1 hbc with hbc | ⟨-, hbc⟩
    · obtain ⟨p, hp⟩ := hb.order?_of_beq hc ha hbc (ha.beq_symm hb hab)
      rw [hb.order?_swap ha, hp] at hnone
      cases hnone
    · cases hac : a.order? c with
      | none => exact .inr ⟨rfl, ha.beq_trans hb hab hbc⟩
      | some q =>
        obtain ⟨p, hp⟩ := ha.order?_of_beq hc hb hac hab
        cases hnone.symm.trans hp

/-! ### Operators -/

theorem isNull_of_order? (h : a.order? b = some o) : a.isNull = false ∧ b.isNull = false := by
  constructor
  · cases a with
    | null => cases b <;> cases h
    | _ => rfl
  · cases b with
    | null => cases a <;> cases h
    | _ => rfl

theorem ordering_of_order? (op : BinaryOp) (h : a.order? b = some o) :
    Expr.ordering op a b = .ok (.boolean (Expr.satisfies op o)) := by
  obtain ⟨ha, hb⟩ := isNull_of_order? h
  rw [Expr.ordering, ha, hb, h]
  rfl

theorem applyBinary_of_order? (h : a.order? b = some o) :
    ∃ less equal greater : Bool,
      Expr.applyBinary .less a b = .ok (.boolean less) ∧ Expr.applyBinary .equal a b = .ok (.boolean equal) ∧
      Expr.applyBinary .greater a b = .ok (.boolean greater) ∧ [less, equal, greater].count true = 1 ∧
      Expr.applyBinary .lessOrEqual a b = .ok (.boolean !greater) ∧
      Expr.applyBinary .greaterOrEqual a b = .ok (.boolean !less) := by
  have hequal : a.looselyEqual b = (o == .eq) := by rw [looselyEqual, h]
  refine ⟨o == .lt, o == .eq, o == .gt, ordering_of_order? _ h, by rw [Expr.applyBinary, hequal],
    ordering_of_order? _ h, ?_, ordering_of_order? _ h, ordering_of_order? _ h⟩
  cases o <;> rfl

/-- Without floats, comparison is a consistent order: it is reversed with its operands, it can be chained, numbers
of all types compare by their exact values, loose equality is an equivalence, and of values that compare exactly one
of less, equal and greater is true, the other two operators being the negations. -/
theorem order?_consistent (ha : a.FloatFree) (hb : b.FloatFree) (hc : c.FloatFree) :
    b.order? a = (a.order? b).map Ordering.swap ∧
    (∀ o p, a.order? b = some o → b.order? c = some p → ∃ q, a.order? c = some q ∧ Follows o p q) ∧
    (∀ x y, a.number? = some x → b.number? = some y → a.order? b = some (compare x y)) ∧
    (a.looselyEqual a = true ∧ (a.looselyEqual b = true → b.looselyEqual a = true) ∧
      (a.looselyEqual b = true → b.looselyEqual c = true → a.looselyEqual c = true)) ∧
    ∀ o, a.order? b = some o → ∃ less equal greater : Bool,
      Expr.applyBinary .less a b = .ok (.boolean less) ∧ Expr.applyBinary .equal a b = .ok (.boolean equal) ∧
      Expr.applyBinary .greater a b = .ok (.boolean greater) ∧ [less, equal, greater].count true = 1 ∧
      Expr.applyBinary .lessOrEqual a b = .ok (.boolean !greater) ∧
      Expr.applyBinary .greaterOrEqual a b = .ok (.boolean !less) :=
  ⟨ha.order?_swap hb, fun _ _ => ha.order?_trans hb hc, fun _ _ => order?_of_number?,
    ⟨ha.looselyEqual_refl, ha.looselyEqual_symm hb, ha.looselyEqual_trans hb hc⟩, fun _ => applyBinary_of_order?⟩

theorem order?_consistent_halves :
    (smallInt 2).FloatFree ∧ (decimal ⟨250, 2⟩).FloatFree ∧ (int 3).FloatFree ∧
      (smallInt 2).order? (decimal ⟨250, 2⟩) = some .lt ∧ (decimal ⟨250, 2⟩).order? (int 3) = some .lt ∧
      (int 3).order? (smallInt 2) = some .gt := by
  have htwo : (smallInt 2).FloatFree := ⟨by rintro _ ⟨⟩, by rintro _ ⟨⟩, by rintro _ ⟨⟩⟩
  have hhalf : (decimal ⟨250, 2⟩).FloatFree := ⟨by rintro _ ⟨⟩, by rintro _ ⟨⟩, by rintro _ ⟨⟩⟩
  have hthree : (int 3).FloatFree := ⟨by rintro _ ⟨⟩, by rintro _ ⟨⟩, by rintro _ ⟨⟩⟩
  obtain ⟨hswap, -⟩ := order?_consistent htwo hthree hhalf
  obtain ⟨-, hchain, -⟩ := order?_consistent htwo hhalf hthree
  have hlow : (smallInt 2).order? (decimal ⟨250, 2⟩) = some .lt := by rfl
  have hhigh : (decimal ⟨250, 2⟩).order? (int 3) = some .lt := by rfl
  obtain ⟨q, hq, hfollows⟩ := hchain _ _ hlow hhigh
  obtain rfl := hfollows.same rfl
  refine ⟨htwo, hhalf, hthree, hlow, hhigh, ?_⟩
  rw [hswap, hq]
  rfl

end Value

end DynamicSql
