import DynamicSql.Parameter.Binder
import DynamicSql.Proofs.Parameter.Inference
import DynamicSql.Proofs.Parameter.Untyped
import DynamicSql.Proofs.Step

/-!
# Binding parameters one after the other

What a binder remembers are the handlers that it would choose anyway (`Binder.Sound`), so that binding
depends on the statement, the argument and the handlers alone. Statements whose parameters have the same
values and differ in nothing that is looked at are bound alike (`bindFrom_congr`). Parameters whose
values are passed on as they are fill the store with these values in order (`bindFrom_kept`).
-/

namespace DynamicSql

open Step

theorem Table.insert_eq_append {α : Type} {t : Table Nat α} {k : Nat} (h : ∀ e ∈ t, e.1 < k) (v : α) :
    t.insert k v = t ++ [(k, v)] := by
  induction t with
  | nil => rfl
  | cons e t ih =>
    obtain ⟨k', v'⟩ := e
    have hlt : k' < k := h _ (.head _)
    rw [Table.insert, if_neg (by omega), if_neg (by omega), ih fun e he => h e (.tail _ he)]
    rfl

namespace Binder

/-- Every handler that is remembered is the one that would be chosen. -/
def Sound (binder : Binder) : Prop :=
  ∀ key h, binder.chosen.find? key = some h → h = choose binder.registry key

theorem sound_new (registry : Registry) (nullType : SqlType) : (new registry nullType).Sound := by
  intro key h hfind
  cases hfind

variable {binder : Binder} {p : Parameter} {v : Value} {t : Option SqlType}

/-- The binder after a handler has been chosen: it may remember one more. -/
structure Extends (binder binder' : Binder) : Prop where
  registry : binder'.registry = binder.registry
  nullType : binder'.nullType = binder.nullType
  sound : binder.Sound → binder'.Sound

theorem Extends.refl (binder : Binder) : Extends binder binder := ⟨rfl, rfl, id⟩

theorem Extends.trans {binder₁ binder₂ binder₃ : Binder} (h : Extends binder₁ binder₂)
    (h' : Extends binder₂ binder₃) : Extends binder₁ binder₃ :=
  ⟨h'.registry.trans h.registry, h'.nullType.trans h.nullType, h'.sound ∘ h.sound⟩

theorem extends_handlerFor (binder : Binder) (p : Parameter) (v : Value) (t : Option SqlType) :
    Extends binder (binder.handlerFor p v t).2 := by
  unfold handlerFor
  split
  · exact .refl binder
  · dsimp only
    split
    · exact .refl binder
    · refine ⟨rfl, rfl, fun hsound key h hfind => ?_⟩
      rw [Assoc.find?_insert] at hfind
      split at hfind
      · next heq =>
        obtain rfl := Option.some.inj hfind
        rw [heq]
      · exact hsound key h hfind

theorem handlerFor_eq_choose (hsound : binder.Sound) (hp : p.handler = none) :
    (binder.handlerFor p v t).1 = choose binder.registry ⟨p.property, v.dataType, p.type, t⟩ := by
  unfold handlerFor
  rw [hp]
  dsimp only
  split
  · next h hfind => exact hsound _ h hfind
  · rfl

variable {b b₁ b₂ : BoundStatement} {argument : Value}

theorem valueOf_eq_ok {registry : Registry} :
    valueOf registry b argument p = .ok v ↔
      ∃ path, Path.parse p.property = .ok path ∧
        (if b.hasBinding path.root then (Value.map b.bindings).readAt path
          else if argument.isNull then .ok .null
          else if registry.isDirect argument.dataType then .ok argument
          else argument.readAt path) = .ok v := by
  rw [valueOf, except_bind_eq_ok]
  simp only [pathOf, mapError_eq_ok]

theorem valueOf_of_parse {registry : Registry} {path : Path} (hpath : Path.parse p.property = .ok path) :
    valueOf registry b argument p = Except.mapError (.property p.property)
      (if b.hasBinding path.root then (Value.map b.bindings).readAt path
        else if argument.isNull then .ok .null
        else if registry.isDirect argument.dataType then .ok argument
        else argument.readAt path) := by
  rw [valueOf, pathOf, hpath]
  rfl

/-- What a parameter reads depends on two of the variables: the one under the first key of its path, and the one
under the empty name, which is the root of a path that begins with an index. -/
theorem valueOf_congr (h : ∀ path key rest, Path.parse p.property = .ok path → path.keys = key :: rest →
      ∀ name, name = "" ∨ name = key → b₁.bindings.find? name = b₂.bindings.find? name)
    (registry : Registry) (argument : Value) : valueOf registry b₁ argument p = valueOf registry b₂ argument p := by
  cases hpath : Path.parse p.property with
  | error e =>
    rw [valueOf, valueOf, pathOf, hpath]
    rfl
  | ok path =>
    obtain ⟨key, rest, hkeys⟩ := Path.exists_keys_of_parse hpath
    have hnames := h path key rest hpath hkeys
    rw [valueOf_of_parse hpath, valueOf_of_parse hpath, BoundStatement.hasBinding, BoundStatement.hasBinding,
      Table.contains, Table.contains, hnames _ (Path.root_eq_key hkeys),
      Value.readAt_congr hkeys (hnames key (.inr rfl))]

theorem valueOf_bound {registry : Registry} {path : Path} (hpath : Path.parse p.property = .ok path)
    {u : Value} (hroot : b.bindings.find? path.root = some u) :
    valueOf registry b argument p = .ok v ↔ (Value.map b.bindings).readAt path = .ok v := by
  have hbinding : b.hasBinding path.root = true := by
    rw [BoundStatement.hasBinding, Table.contains, hroot]
    rfl
  rw [valueOf_of_parse hpath, mapError_eq_ok, hbinding, if_pos rfl]

theorem valueOf_unbound {registry : Registry} (hmap : registry.isDirect .map = false)
    {entries : List (String × Value)} {path : Path} (hpath : Path.parse p.property = .ok path)
    (hroot : b.bindings.find? path.root = none) :
    valueOf registry b (.map entries) p = .ok v ↔ (Value.map entries).readAt path = .ok v := by
  have hbinding : b.hasBinding path.root = false := by
    rw [BoundStatement.hasBinding, Table.contains, hroot]
    rfl
  have hdirect : registry.isDirect (Value.map entries).dataType = false := hmap
  have hnull : (Value.map entries).isNull = false := rfl
  rw [valueOf_of_parse hpath, mapError_eq_ok]
  simp only [hbinding, hdirect, hnull, Bool.false_eq_true, if_false]

/-! ### Statements that are bound alike -/

theorem writeInput_congr (h : ∀ registry, valueOf registry b₁ argument p = valueOf registry b₂ argument p)
    (ordinal : Nat) : writeInput b₁ argument ordinal p = writeInput b₂ argument ordinal p := by
  funext s
  rw [writeInput, writeInput, h]

/-- Parameters that binding cannot tell apart: they differ in their types at most, and do not differ at
all where they take in a value, which is then the same. -/
structure BoundAlike (b₁ b₂ : BoundStatement) (argument : Value) (p₁ p₂ : Parameter) : Prop where
  untyped : p₁.untyped = p₂.untyped
  input : p₁.mode.isInput = true →
    p₁ = p₂ ∧ ∀ registry, valueOf registry b₁ argument p₁ = valueOf registry b₂ argument p₁

theorem bindOne_congr {p₁ p₂ : Parameter} (h : BoundAlike b₁ b₂ argument p₁ p₂) (ordinal : Nat) :
    bindOne b₁ argument ordinal p₁ = bindOne b₂ argument ordinal p₂ := by
  have hmode : p₂.mode = p₁.mode := (congrArg Parameter.mode h.untyped).symm
  have hdeclare : declareOutput ordinal p₁ = declareOutput ordinal p₂ := by
    have hregister : ∀ store, registerOutput store ordinal p₁ = registerOutput store ordinal p₂ := by
      intro store
      have huntyped : ∀ p : Parameter,
          registerOutput store ordinal p = registerOutput store ordinal p.untyped := fun _ => rfl
      rw [huntyped p₁, huntyped p₂, h.untyped]
    funext s
    rw [declareOutput, declareOutput, hregister]
  have hwrite : (if p₁.mode.isInput then writeInput b₁ argument ordinal p₁ else pure ()) =
      if p₁.mode.isInput then writeInput b₂ argument ordinal p₂ else pure () := by
    split
    · next hinput =>
      obtain ⟨rfl, hvalue⟩ := h.input hinput
      exact writeInput_congr hvalue ordinal
    · rfl
  rw [bindOne, bindOne, hmode, hdeclare]
  simp only [hwrite]

theorem bindFrom_congr {params₁ params₂ : List Parameter}
    (h : List.Forall₂ (BoundAlike b₁ b₂ argument) params₁ params₂) (ordinal : Nat) :
    bindFrom b₁ argument ordinal params₁ = bindFrom b₂ argument ordinal params₂ := by
  induction h generalizing ordinal with
  | nil => rfl
  | cons hp _ ih => rw [bindFrom, bindFrom, bindOne_congr hp, ih]

/-! ### Values that are passed on -/

/-- A parameter of which nothing but property and type is known. -/
def Bare (p : Parameter) : Prop := p = .ofType p.property p.type

/-- The handler that is chosen for a value of the parameter passes the value on as it is. -/
def Keeps (registry : Registry) (p : Parameter) (v : Value) : Prop :=
  v.isNull = false →
    ∀ ordinal, (choose registry ⟨p.property, v.dataType, p.type, none⟩).convert ordinal v = .ok v

/-- The store with one more value. -/
def stored (nullType : SqlType) (store : Store) (ordinal : Nat) (p : Parameter) (v : Value) : Store :=
  { store with inputs := store.inputs.insert ordinal ⟨v, sqlTypeFor nullType p v⟩ }

theorem checkOrdinal_eq_ok {ordinal : Nat} (h : ordinal ≠ 0) : Store.checkOrdinal ordinal = .ok () :=
  if_neg h

theorem setValue_eq_ok {ordinal : Nat} (h : ordinal ≠ 0) (store : Store) (v : Value)
    (t : Option SqlType) :
    store.setValue ordinal v t = .ok { store with inputs := store.inputs.insert ordinal ⟨v, t⟩ } := by
  rw [Store.setValue, checkOrdinal_eq_ok h]
  rfl

theorem setParameter_kept {registry : Registry} (hp : Bare p) (hkeeps : Keeps registry p v)
    (nullType : SqlType) (store : Store) {ordinal : Nat} (hordinal : ordinal ≠ 0) :
    (choose registry ⟨p.property, v.dataType, p.type, sqlTypeFor nullType p v⟩).setParameter store ordinal v
      (sqlTypeFor nullType p v) = .ok (stored nullType store ordinal p v) := by
  have hsql : p.sqlType = none := by
    rw [hp]
    rfl
  have htype : sqlTypeFor nullType p v = if v.isNull then some nullType else none := by
    rw [sqlTypeFor, hsql]
  rw [stored]
  cases hnull : v.isNull with
  | true =>
    obtain rfl := Value.eq_null_of_isNull hnull
    rw [htype, hnull, if_pos rfl, Handler.setParameter, if_pos hnull]
    exact setValue_eq_ok hordinal store .null _
  | false =>
    rw [htype, hnull, if_neg Bool.false_ne_true, Handler.setParameter, hnull, if_neg Bool.false_ne_true,
      hkeeps hnull ordinal]
    exact setValue_eq_ok hordinal store v none

theorem writeInput_kept {s : Binding} (hsound : s.binder.Sound) (hp : Bare p)
    (hvalue : valueOf s.binder.registry b argument p = .ok v) (hkeeps : Keeps s.binder.registry p v)
    {ordinal : Nat} (hordinal : ordinal ≠ 0) :
    ∃ binder, writeInput b argument ordinal p s =
        .ok () ⟨binder, stored s.binder.nullType s.store ordinal p v⟩ ∧ Extends s.binder binder := by
  have hhandler : p.handler = none := by
    rw [hp]
    rfl
  refine ⟨(s.binder.handlerFor p v (sqlTypeFor s.binder.nullType p v)).2, ?_, extends_handlerFor ..⟩
  rw [writeInput, hvalue]
  dsimp only
  rw [handlerFor_eq_choose hsound hhandler, setParameter_kept hp hkeeps _ _ hordinal]

theorem bindOne_bare (hp : Bare p) (ordinal : Nat) :
    bindOne b argument ordinal p = writeInput b argument ordinal p := by
  rw [hp]
  rfl

theorem of_bindOne {s s' : Binding} (hp : Bare p) {ordinal : Nat}
    (h : bindOne b argument ordinal p s = .ok () s') :
    (∃ v, valueOf s.binder.registry b argument p = .ok v) ∧ Extends s.binder s'.binder := by
  rw [bindOne_bare hp, writeInput] at h
  cases hvalue : valueOf s.binder.registry b argument p with
  | error e =>
    rw [hvalue] at h
    cases h
  | ok v =>
    rw [hvalue] at h
    dsimp only at h
    split at h
    · cases h
      exact ⟨⟨v, rfl⟩, extends_handlerFor ..⟩
    · cases h

theorem of_bindFrom {params : List Parameter} (hparams : ∀ p ∈ params, Bare p) {s s' : Binding}
    {ordinal : Nat} (h : bindFrom b argument ordinal params s = .ok () s') :
    ∃ values, List.Forall₂ (fun p v => valueOf s.binder.registry b argument p = .ok v) params values := by
  induction params generalizing s ordinal with
  | nil => exact ⟨[], .nil⟩
  | cons p params ih =>
    rw [bindFrom] at h
    obtain ⟨⟨⟩, s₁, hone, hrest⟩ := bind_eq_ok.1 h
    obtain ⟨⟨v, hv⟩, hextends⟩ := of_bindOne (hparams p (.head _)) hone
    obtain ⟨values, hvalues⟩ := ih (fun q hq => hparams q (.tail _ hq)) hrest
    rw [hextends.registry] at hvalues
    exact ⟨v :: values, .cons hv hvalues⟩

theorem bindFrom_kept {registry : Registry} {params : List Parameter} {values : List Value}
    (h : List.Forall₂ (fun p v => Bare p ∧ valueOf registry b argument p = .ok v ∧ Keeps registry p v)
      params values) {s : Binding} (hsound : s.binder.Sound) (hregistry : s.binder.registry = registry)
    {ordinal : Nat} (hordinal : ordinal ≠ 0) (hless : ∀ e ∈ s.store.inputs, e.1 < ordinal) :
    ∃ s', bindFrom b argument ordinal params s = .ok () s' ∧ Extends s.binder s'.binder ∧
      s'.store.values = s.store.values ++ values := by
  induction h generalizing s ordinal with
  | nil => exact ⟨s, rfl, .refl _, (List.append_nil _).symm⟩
  | @cons p v params values hp _ ih =>
    obtain ⟨hbare, hvalue, hkeeps⟩ := hp
    subst hregistry
    obtain ⟨binder, hwrite, hextends⟩ := writeInput_kept hsound hbare hvalue hkeeps hordinal
    have hinputs := Table.insert_eq_append hless ⟨v, sqlTypeFor s.binder.nullType p v⟩
    have hless' : ∀ e ∈ (stored s.binder.nullType s.store ordinal p v).inputs, e.1 < ordinal + 1 := by
      intro e he
      rw [stored, hinputs] at he
      rcases List.mem_append.1 he with he | he
      · have := hless e he
        omega
      · obtain rfl := List.mem_singleton.1 he
        exact Nat.lt_succ_self ordinal
    obtain ⟨s', hrest, hextends', hvalues⟩ :=
      ih (s := ⟨binder, stored s.binder.nullType s.store ordinal p v⟩) (hextends.sound hsound)
        hextends.registry (Nat.succ_ne_zero ordinal) hless'
    refine ⟨s', ?_, hextends.trans hextends', ?_⟩
    · rw [bindFrom]
      exact bind_eq_ok.2 ⟨(), _, by rw [bindOne_bare hbare, hwrite], hrest⟩
    · rw [hvalues, Store.values, stored, hinputs, List.map_append, List.append_assoc]
      rfl

/-- Bare parameters that keep what they read are bound just if all of them have values, and then the
store holds these values, in order. -/
theorem bind_kept_iff (hvalid : b.validate = .ok ()) {binder : Binder} (hsound : binder.Sound)
    (hparams : ∀ p ∈ b.parameters, Bare p ∧ ∀ v, valueOf binder.registry b (navigable argument) p = .ok v →
      Keeps binder.registry p v) (values : List Value) :
    (∃ s, bind b argument ⟨binder, .empty⟩ = .ok () s ∧ s.store.values = values) ↔
      List.Forall₂ (fun p v => valueOf binder.registry b (navigable argument) p = .ok v) b.parameters
        values := by
  have hbind : ∀ s, bind b argument s = bindFrom b (navigable argument) 1 b.parameters s := by
    intro s
    rw [bind, hvalid]
  have hkept : ∀ {values}, List.Forall₂ (fun p v => valueOf binder.registry b (navigable argument) p = .ok v)
      b.parameters values → ∃ s, bind b argument ⟨binder, .empty⟩ = .ok () s ∧ s.store.values = values := by
    intro values hvalues
    have hall := (List.forall₂_and_left _ _).2 ⟨hparams, hvalues⟩
    have hkept : List.Forall₂ (fun p v => Bare p ∧ valueOf binder.registry b (navigable argument) p = .ok v ∧
        Keeps binder.registry p v) b.parameters values := hall.imp fun p v h => ⟨h.1.1, h.2, h.1.2 v h.2⟩
    obtain ⟨s, hs, -, hstore⟩ :=
      bindFrom_kept hkept (s := ⟨binder, .empty⟩) hsound rfl Nat.one_ne_zero nofun
    exact ⟨s, (hbind _).trans hs, hstore⟩
  constructor
  · rintro ⟨s, hs, rfl⟩
    obtain ⟨values, hvalues⟩ := of_bindFrom (fun p hp => (hparams p hp).1) ((hbind _).symm.trans hs)
    obtain ⟨s', hs', rfl⟩ := hkept hvalues
    rw [hs] at hs'
    cases hs'
    exact hvalues
  · exact hkept

/-! ### What is remembered -/

theorem writeInput_preserves (b : BoundStatement) (argument : Value) (ordinal : Nat) (p : Parameter) :
    Preserves (fun s => Extends binder s.binder) (writeInput b argument ordinal p) := by
  intro s hextends
  rw [writeInput]
  cases valueOf s.binder.registry b argument p with
  | error e => exact hextends
  | ok v =>
    have hhandler := hextends.trans (extends_handlerFor s.binder p v (sqlTypeFor s.binder.nullType p v))
    dsimp only
    cases (s.binder.handlerFor p v (sqlTypeFor s.binder.nullType p v)).1.setParameter s.store ordinal v
        (sqlTypeFor s.binder.nullType p v) with
    | ok store => exact hhandler
    | error e => exact hhandler

theorem declareOutput_preserves (ordinal : Nat) (p : Parameter) :
    Preserves (fun s => Extends binder s.binder) (declareOutput ordinal p) := by
  intro s hextends
  rw [declareOutput]
  cases registerOutput s.store ordinal p with
  | ok store => exact hextends
  | error e => exact hextends

theorem bindOne_preserves (b : BoundStatement) (argument : Value) (ordinal : Nat) (p : Parameter) :
    Preserves (fun s => Extends binder s.binder) (bindOne b argument ordinal p) := by
  have hinput : Preserves (fun s => Extends binder s.binder)
      (if p.mode.isInput then writeInput b argument ordinal p else pure ()) := by
    split
    · exact writeInput_preserves b argument ordinal p
    · exact .pure ()
  rw [bindOne]
  split
  · exact (declareOutput_preserves ordinal p).bind fun _ => hinput
  · exact hinput

theorem bindFrom_preserves (b : BoundStatement) (argument : Value) (ordinal : Nat)
    (params : List Parameter) :
    Preserves (fun s => Extends binder s.binder) (bindFrom b argument ordinal params) := by
  induction params generalizing ordinal with
  | nil => exact .pure ()
  | cons p params ih => exact (bindOne_preserves b argument ordinal p).bind fun _ => ih (ordinal + 1)

theorem bind_preserves (b : BoundStatement) (argument : Value) :
    Preserves (fun s => Extends binder s.binder) (bind b argument) := by
  rw [bind]
  split
  · exact .throw _
  · exact bindFrom_preserves b (navigable argument) 1 b.parameters

end Binder

end DynamicSql
