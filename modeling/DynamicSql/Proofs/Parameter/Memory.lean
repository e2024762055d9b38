import DynamicSql.Proofs.Parameter.Bind
import Mathlib.Data.List.Dedup

/-!
# What a binder remembers

A binder remembers the handlers it has chosen, and is shared by all statements. This shows in nothing but
its size. The handler that is used for a value is the one that the rule for handlers gives
(`Binder.Rule`), whatever was bound before; every call ends as it does with a binder that remembers
nothing, and does to the store what its uses of handlers do (`Call.Performs`); and there is one entry for
each combination of property, value type, declared type and SQL type that a handler was looked up for
(`Binder.calls_transparent`).

The argument compares each step with the same step of a binder that has forgotten everything. Both do the
same because all that is remembered is what would be chosen anyway (`Binder.Sound`), and the step is
repeated along the parameters of a call and along the calls.
-/

namespace DynamicSql

open Step

namespace Assoc

variable {κ α : Type} [DecidableEq κ]

theorem find?_eq_none_iff (t : Assoc κ α) (k : κ) : t.find? k = none ↔ k ∉ t.map Prod.fst := by
  induction t with
  | nil => simp
  | cons e t ih =>
    obtain ⟨k', v⟩ := e
    by_cases hk : k = k'
    · simp [find?, hk]
    · simp [find?, hk, ih]

theorem mem_keys_of_find? {t : Assoc κ α} {k : κ} {v : α} (h : t.find? k = some v) :
    k ∈ t.map Prod.fst := by
  by_contra hk
  rw [(find?_eq_none_iff t k).2 hk] at h
  cases h

theorem keys_insert (t : Assoc κ α) {k : κ} (h : t.find? k = none) (v : α) :
    (t.insert k v).map Prod.fst = t.map Prod.fst ++ [k] := by
  induction t with
  | nil => rfl
  | cons e t ih =>
    obtain ⟨k', v'⟩ := e
    have hk : k ≠ k' := by
      rintro rfl
      simp [find?] at h
    have hrest : Assoc.find? t k = none := by simpa [find?, hk] using h
    simp [insert, hk, ih hrest]

end Assoc

/-- A handler of the values of a type that does not take everything. -/
def Registry.Specific (registry : Registry) (type : DataType) (sqlType : Option SqlType) (h : Handler) :
    Prop :=
  registry.get? type sqlType = some h ∧ h.isGeneric = false

namespace Binder

/-! ### The rule for handlers -/

/-- Which handler a parameter has for a value that is written with an SQL type: the one that was asked
for, else one for the type of the value, else one for the declared type, else the one for the SQL type,
else the one that takes everything. -/
inductive Rule (registry : Registry) (p : Parameter) (v : Value) (sqlType : Option SqlType) : Handler → Prop
  | requested {h : Handler} : p.handler = some h → Rule registry p v sqlType h
  | valueType {h : Handler} : p.handler = none → registry.Specific v.dataType sqlType h →
      Rule registry p v sqlType h
  | declaredType {h : Handler} : p.handler = none → (∀ h', ¬ registry.Specific v.dataType sqlType h') →
      registry.Specific p.type sqlType h → Rule registry p v sqlType h
  | sqlType {t : SqlType} {h : Handler} : p.handler = none →
      (∀ h', ¬ registry.Specific v.dataType sqlType h') → (∀ h', ¬ registry.Specific p.type sqlType h') →
      sqlType = some t → registry.forSqlType? t = some h → Rule registry p v sqlType h
  | generic : p.handler = none → (∀ h', ¬ registry.Specific v.dataType sqlType h') →
      (∀ h', ¬ registry.Specific p.type sqlType h') →
      (∀ t, sqlType = some t → registry.forSqlType? t = none) → Rule registry p v sqlType Registry.generic

/-- The handler of a parameter for a value, found without looking at what is remembered. -/
def afresh (registry : Registry) (p : Parameter) (v : Value) (sqlType : Option SqlType) : Handler :=
  p.handler.getD (choose registry ⟨p.property, v.dataType, p.type, sqlType⟩)

theorem filter_eq_some_iff_specific {registry : Registry} {type : DataType} {t : Option SqlType}
    {h : Handler} :
    (registry.get? type t).filter (fun h => !h.isGeneric) = some h ↔ registry.Specific type t h := by
  rw [Option.filter_eq_some_iff, Registry.Specific, Bool.not_eq_true']

theorem filter_eq_none_iff_specific {registry : Registry} {type : DataType} {t : Option SqlType} :
    (registry.get? type t).filter (fun h => !h.isGeneric) = none ↔ ∀ h, ¬ registry.Specific type t h := by
  rw [Option.eq_none_iff_forall_ne_some]
  exact forall_congr' fun h => not_congr filter_eq_some_iff_specific

variable {registry : Registry} {p : Parameter} {v : Value} {t : Option SqlType} {h : Handler}

theorem rule_afresh (registry : Registry) (p : Parameter) (v : Value) (t : Option SqlType) :
    Rule registry p v t (afresh registry p v t) := by
  rw [afresh]
  cases hp : p.handler with
  | some h => exact .requested hp
  | none =>
    rw [Option.getD_none, choose]
    dsimp only
    cases hvalue : (registry.get? v.dataType t).filter (fun h => !h.isGeneric) with
    | some h => exact .valueType hp (filter_eq_some_iff_specific.1 hvalue)
    | none =>
      have hvalue := filter_eq_none_iff_specific.1 hvalue
      cases hdeclared : (registry.get? p.type t).filter (fun h => !h.isGeneric) with
      | some h => exact .declaredType hp hvalue (filter_eq_some_iff_specific.1 hdeclared)
      | none =>
        have hdeclared := filter_eq_none_iff_specific.1 hdeclared
        cases hsql : t.bind registry.forSqlType? with
        | some h =>
          obtain ⟨u, hu, hh⟩ := Option.bind_eq_some_iff.1 hsql
          exact .sqlType hp hvalue hdeclared hu hh
        | none => exact .generic hp hvalue hdeclared (Option.bind_eq_none_iff.1 hsql)

theorem Rule.unique {h' : Handler} (hrule : Rule registry p v t h) (hrule' : Rule registry p v t h') :
    h = h' := by
  have hspecific : ∀ {type : DataType} {h h' : Handler}, registry.Specific type t h →
      registry.Specific type t h' → h = h' := fun h h' => Option.some.inj (h.1.symm.trans h'.1)
  cases hrule <;> cases hrule' <;> grind

theorem rule_iff : Rule registry p v t h ↔ h = afresh registry p v t :=
  ⟨fun hrule => hrule.unique (rule_afresh registry p v t), fun heq => heq ▸ rule_afresh registry p v t⟩

/-- A binder that remembers only what it would choose uses the handler of the rule. -/
theorem handlerFor_eq_afresh {binder : Binder} (hsound : binder.Sound) (p : Parameter) (v : Value)
    (t : Option SqlType) : (binder.handlerFor p v t).1 = afresh binder.registry p v t := by
  rw [afresh]
  cases hp : p.handler with
  | some h => rw [handlerFor, hp]; rfl
  | none => exact handlerFor_eq_choose hsound hp

/-! ### Handlers in use -/

/-- A value that was given to a handler, and the parameter it was read for. -/
structure Use where
  parameter : Parameter
  value : Value
  handler : Handler

/-- What the choice of the handler depended on, unless the handler was asked for. -/
def Use.key? (nullType : SqlType) (u : Use) : Option HandlerKey :=
  match u.parameter.handler with
  | some _ => none
  | none => some ⟨u.parameter.property, u.value.dataType, u.parameter.type,
      sqlTypeFor nullType u.parameter u.value⟩

/-- The use that writing a parameter makes, if the parameter has a value. -/
def usesInput (b : BoundStatement) (argument : Value) (p : Parameter) (s : Binding) : List Use :=
  match valueOf s.binder.registry b argument p with
  | .error _ => []
  | .ok v => [⟨p, v, (s.binder.handlerFor p v (sqlTypeFor s.binder.nullType p v)).1⟩]

/-- The store in which the output of a parameter is declared, if the parameter is one for output. -/
def declared (store : Store) (ordinal : Nat) (p : Parameter) : Except BindError Store :=
  if p.mode.isOutput then registerOutput store ordinal p else .ok store

/-- The uses in binding one parameter; there is none if its output cannot be declared. -/
def usesOne (b : BoundStatement) (argument : Value) (ordinal : Nat) (p : Parameter) (s : Binding) :
    List Use :=
  match declared s.store ordinal p with
  | .error _ => []
  | .ok _ => if p.mode.isInput then usesInput b argument p s else []

/-- The uses in binding parameters up to the first fault. -/
def usesFrom (b : BoundStatement) (argument : Value) : Nat → List Parameter → Binding → List Use
  | _, [], _ => []
  | ordinal, p :: rest, s =>
    usesOne b argument ordinal p s ++
      match bindOne b argument ordinal p s with
      | .ok _ s' => usesFrom b argument (ordinal + 1) rest s'
      | .error .. => []

/-- The uses in binding a statement. -/
def uses (b : BoundStatement) (argument : Value) (s : Binding) : List Use :=
  match b.validate with
  | .error _ => []
  | .ok _ => usesFrom b (navigable argument) 1 b.parameters s

end Binder

/-! ### Forgetting -/

/-- The state with a binder that remembers nothing. -/
def Binding.forget (s : Binding) : Binding :=
  ⟨.new s.binder.registry s.binder.nullType, s.store⟩

/-- The result of a step, with what is remembered left aside. -/
def forgetting {α : Type} : EStateM.Result BindError Binding α → EStateM.Result BindError Binding α
  | .ok a s => .ok a s.forget
  | .error e s => .error e s.forget

theorem fault?_forgetting {α : Type} (r : EStateM.Result BindError Binding α) :
    fault? (forgetting r) = fault? r := by
  cases r <;> rfl

theorem store_final_forgetting {α : Type} (r : EStateM.Result BindError Binding α) :
    (final (forgetting r)).store = (final r).store := by
  cases r <;> rfl

namespace Binder

variable {α β : Type} {s : Binding}

theorem sound_forget (s : Binding) : s.forget.binder.Sound := sound_new _ _

/-- The step does the same if the binder forgets what it remembers. -/
def Transparent (step : BindStep α) : Prop :=
  ∀ s : Binding, s.binder.Sound → forgetting (step s) = forgetting (step s.forget)

theorem Transparent.pure (a : α) : Transparent (Pure.pure a) := fun _ _ => rfl

theorem Transparent.bind {step : BindStep α} {next : α → BindStep β}
    (hsound : Preserves (·.binder.Sound) step) (hstep : Transparent step)
    (hnext : ∀ a, Transparent (next a)) : Transparent (step >>= next) := by
  intro s hs
  have hsame := hstep s hs
  have hkept := hsound s hs
  have hkept' := hsound s.forget (sound_forget s)
  cases h : step s with
  | ok a s₁ =>
    cases h' : step s.forget with
    | ok a' s₁' =>
      rw [h, h'] at hsame
      rw [h] at hkept
      rw [h'] at hkept'
      obtain ⟨rfl, hforget⟩ := EStateM.Result.ok.inj hsame
      rw [bind_of_ok h, bind_of_ok h', hnext a s₁ hkept, hnext a s₁' hkept', hforget]
    | error e' s₁' =>
      rw [h, h'] at hsame
      cases hsame
  | error e s₁ =>
    cases h' : step s.forget with
    | ok a' s₁' =>
      rw [h, h'] at hsame
      cases hsame
    | error e' s₁' =>
      rw [h, h'] at hsame
      obtain ⟨rfl, hforget⟩ := EStateM.Result.error.inj hsame
      rw [bind_of_error h, bind_of_error h']
      exact congrArg (EStateM.Result.error e) hforget

theorem declareOutput_transparent (ordinal : Nat) (p : Parameter) :
    Transparent (declareOutput ordinal p) := by
  intro s _
  have hstore : s.forget.store = s.store := rfl
  rw [declareOutput, declareOutput, hstore]
  cases registerOutput s.store ordinal p <;> rfl

theorem forget_handlerFor (s : Binding) (p : Parameter) (v : Value) (t : Option SqlType) (store : Store) :
    Binding.forget ⟨(s.binder.handlerFor p v t).2, store⟩ = { s.forget with store } := by
  have hextends := extends_handlerFor s.binder p v t
  rw [Binding.forget, hextends.registry, hextends.nullType]
  rfl

theorem writeInput_transparent (b : BoundStatement) (argument : Value) (ordinal : Nat) (p : Parameter) :
    Transparent (writeInput b argument ordinal p) := by
  intro s hs
  have hregistry : s.forget.binder.registry = s.binder.registry := rfl
  have hnullType : s.forget.binder.nullType = s.binder.nullType := rfl
  have hstore : s.forget.store = s.store := rfl
  rw [writeInput, writeInput, hregistry, hnullType, hstore]
  cases valueOf s.binder.registry b argument p with
  | error e => rfl
  | ok v =>
    dsimp only
    have hhandler : (s.forget.binder.handlerFor p v (sqlTypeFor s.binder.nullType p v)).1 =
        (s.binder.handlerFor p v (sqlTypeFor s.binder.nullType p v)).1 := by
      rw [handlerFor_eq_afresh (sound_forget s), handlerFor_eq_afresh hs, hregistry]
    rw [hhandler]
    cases (s.binder.handlerFor p v (sqlTypeFor s.binder.nullType p v)).1.setParameter s.store ordinal v
        (sqlTypeFor s.binder.nullType p v) with
    | ok store =>
      show EStateM.Result.ok () (Binding.forget _) = EStateM.Result.ok () (Binding.forget _)
      rw [forget_handlerFor, forget_handlerFor]
      rfl
    | error e =>
      show EStateM.Result.error _ (Binding.forget _) = EStateM.Result.error _ (Binding.forget _)
      rw [forget_handlerFor, forget_handlerFor]
      rfl

theorem preserves_sound {step : BindStep α}
    (h : ∀ binder, Preserves (fun s => Extends binder s.binder) step) :
    Preserves (·.binder.Sound) step := by
  intro s hs
  have hextends := h s.binder s (.refl _)
  cases hstep : step s with
  | ok a s' =>
    rw [hstep] at hextends
    exact hextends.sound hs
  | error e s' =>
    rw [hstep] at hextends
    exact hextends.sound hs

theorem bindOne_transparent (b : BoundStatement) (argument : Value) (ordinal : Nat) (p : Parameter) :
    Transparent (bindOne b argument ordinal p) := by
  have hinput : Transparent (if p.mode.isInput then writeInput b argument ordinal p else pure ()) := by
    split
    · exact writeInput_transparent b argument ordinal p
    · exact .pure ()
  rw [bindOne]
  split
  · exact .bind (preserves_sound fun _ => declareOutput_preserves ordinal p)
      (declareOutput_transparent ordinal p) fun _ => hinput
  · exact hinput

theorem bindFrom_transparent (b : BoundStatement) (argument : Value) (ordinal : Nat)
    (params : List Parameter) : Transparent (bindFrom b argument ordinal params) := by
  induction params generalizing ordinal with
  | nil => exact .pure ()
  | cons p params ih =>
    exact .bind (preserves_sound fun _ => bindOne_preserves b argument ordinal p)
      (bindOne_transparent b argument ordinal p) fun _ => ih (ordinal + 1)

/-- Binding a statement does the same whatever is remembered. -/
theorem bind_transparent (b : BoundStatement) (argument : Value) : Transparent (bind b argument) := by
  rw [bind]
  split
  · exact fun _ _ => rfl
  · exact bindFrom_transparent b (navigable argument) 1 b.parameters

/-! ### The uses follow the rule -/

theorem usesInput_forget {b : BoundStatement} {argument : Value} {p : Parameter}
    (hs : s.binder.Sound) : usesInput b argument p s.forget = usesInput b argument p s := by
  have hregistry : s.forget.binder.registry = s.binder.registry := rfl
  have hnullType : s.forget.binder.nullType = s.binder.nullType := rfl
  rw [usesInput, usesInput, hregistry, hnullType]
  cases valueOf s.binder.registry b argument p with
  | error e => rfl
  | ok v =>
    dsimp only
    rw [handlerFor_eq_afresh hs, handlerFor_eq_afresh (sound_forget s), hregistry]

theorem usesOne_forget {b : BoundStatement} {argument : Value} {ordinal : Nat} {p : Parameter}
    (hs : s.binder.Sound) : usesOne b argument ordinal p s.forget = usesOne b argument ordinal p s := by
  have hstore : s.forget.store = s.store := rfl
  rw [usesOne, usesOne, hstore, usesInput_forget hs]

theorem usesFrom_forget {b : BoundStatement} {argument : Value} {params : List Parameter}
    {ordinal : Nat} (hs : s.binder.Sound) :
    usesFrom b argument ordinal params s.forget = usesFrom b argument ordinal params s := by
  induction params generalizing s ordinal with
  | nil => rfl
  | cons p params ih =>
    have hsame := bindOne_transparent b argument ordinal p s hs
    have hkept := preserves_sound (fun _ => bindOne_preserves b argument ordinal p)
    have hkept₁ := hkept s hs
    have hkept₂ := hkept s.forget (sound_forget s)
    rw [usesFrom, usesFrom, usesOne_forget hs]
    cases h₁ : bindOne b argument ordinal p s with
    | ok u₁ s₁ =>
      cases h₂ : bindOne b argument ordinal p s.forget with
      | ok u₂ s₂ =>
        rw [h₁, h₂] at hsame
        rw [h₁] at hkept₁
        rw [h₂] at hkept₂
        have hforget : s₁.forget = s₂.forget := (EStateM.Result.ok.inj hsame).2
        dsimp only
        rw [← ih hkept₁, ← ih hkept₂, hforget]
      | error e₂ s₂ =>
        rw [h₁, h₂] at hsame
        cases hsame
    | error e₁ s₁ =>
      cases h₂ : bindOne b argument ordinal p s.forget with
      | ok u₂ s₂ =>
        rw [h₁, h₂] at hsame
        cases hsame
      | error e₂ s₂ => rfl

theorem uses_forget {b : BoundStatement} {argument : Value} (hs : s.binder.Sound) :
    uses b argument s.forget = uses b argument s := by
  rw [uses, uses]
  split
  · rfl
  · exact usesFrom_forget hs

/-- A use as it should be: of a parameter for input, with the value that the parameter has and the handler
that the rule gives. -/
structure Use.Regular (registry : Registry) (nullType : SqlType) (b : BoundStatement) (argument : Value)
    (u : Use) : Prop where
  isInput : u.parameter.mode.isInput = true
  value : valueOf registry b argument u.parameter = .ok u.value
  handler : Rule registry u.parameter u.value (sqlTypeFor nullType u.parameter u.value) u.handler

theorem regular_of_mem_usesOne {b : BoundStatement} {argument : Value} {ordinal : Nat} {p : Parameter}
    (hs : s.binder.Sound) {u : Use} (hu : u ∈ usesOne b argument ordinal p s) :
    u.Regular s.binder.registry s.binder.nullType b argument := by
  rw [usesOne] at hu
  split at hu
  · cases hu
  · split at hu
    · next hinput =>
      rw [usesInput] at hu
      split at hu
      · cases hu
      · next v hv =>
        obtain rfl := List.mem_singleton.1 hu
        exact ⟨hinput, hv, rule_iff.2 (handlerFor_eq_afresh hs p v _)⟩
    · cases hu

theorem regular_of_mem_usesFrom {b : BoundStatement} {argument : Value} {params : List Parameter}
    {ordinal : Nat} (hs : s.binder.Sound) {u : Use} (hu : u ∈ usesFrom b argument ordinal params s) :
    u.Regular s.binder.registry s.binder.nullType b argument := by
  induction params generalizing s ordinal with
  | nil => cases hu
  | cons p params ih =>
    rw [usesFrom] at hu
    rcases List.mem_append.1 hu with hu | hu
    · exact regular_of_mem_usesOne hs hu
    · have hextends := @bindOne_preserves s.binder b argument ordinal p s (.refl _)
      cases hone : bindOne b argument ordinal p s with
      | ok _ s' =>
        rw [hone] at hu hextends
        have hregular := ih (hextends.sound hs) hu
        rwa [hextends.registry, hextends.nullType] at hregular
      | error e s' =>
        rw [hone] at hu
        cases hu

theorem regular_of_mem_uses {b : BoundStatement} {argument : Value} (hs : s.binder.Sound) {u : Use}
    (hu : u ∈ uses b argument s) :
    u.Regular s.binder.registry s.binder.nullType b (navigable argument) := by
  rw [uses] at hu
  split at hu
  · cases hu
  · exact regular_of_mem_usesFrom hs hu

/-! ### One parameter -/

theorem bindOne_of_declared {b : BoundStatement} {argument : Value} {ordinal : Nat} {p : Parameter}
    {store : Store} (h : declared s.store ordinal p = .ok store) :
    bindOne b argument ordinal p s =
      if p.mode.isInput then writeInput b argument ordinal p { s with store }
      else .ok () { s with store } := by
  have hinput : (if p.mode.isInput then writeInput b argument ordinal p else pure ()) { s with store } =
      if p.mode.isInput then writeInput b argument ordinal p { s with store }
      else .ok () { s with store } := by
    split <;> rfl
  rw [declared] at h
  rw [bindOne, ← hinput]
  split at h
  · next houtput =>
    have hdeclare : declareOutput ordinal p s = .ok () { s with store } := by
      rw [declareOutput, h]
    rw [if_pos houtput]
    exact bind_of_ok hdeclare _
  · next houtput =>
    obtain rfl := Except.ok.inj h
    rw [if_neg houtput]

theorem bindOne_of_not_declared {b : BoundStatement} {argument : Value} {ordinal : Nat} {p : Parameter}
    {e : BindError} (h : declared s.store ordinal p = .error e) :
    bindOne b argument ordinal p s = .error e s := by
  rw [declared] at h
  split at h
  · next houtput =>
    have hdeclare : declareOutput ordinal p s = .error e s := by
      rw [declareOutput, h]
    rw [bindOne, if_pos houtput]
    exact bind_of_error hdeclare _
  · cases h

theorem bind_of_valid {b : BoundStatement} (h : b.validate = .ok ()) (argument : Value) :
    bind b argument s = bindFrom b (navigable argument) 1 b.parameters s := by
  rw [bind, h]

theorem bind_of_invalid {b : BoundStatement} {e : BindError} (h : b.validate = .error e)
    (argument : Value) : bind b argument s = .error e s := by
  rw [bind, h]
  rfl

/-! ### The uses are those of the run -/

/-- What becomes of the store when the value of a use is given to its handler. -/
def Use.write (u : Use) (nullType : SqlType) (ordinal : Nat) (store : Store) : Except BindError Store :=
  (u.handler.setParameter store ordinal u.value (sqlTypeFor nullType u.parameter u.value)).mapError
    (·.forParameter u.parameter.property ordinal u.handler.name)

/-- Binding parameters by uses: the fault that ends it, if there is one, and the store after it. The output of each
parameter is declared. Then, if it is one for input, there is a use of it, and the value of this use is given to its
handler; there is none only where the parameter has no value. -/
inductive Performs (registry : Registry) (nullType : SqlType) (b : BoundStatement) (argument : Value) :
    Nat → List Parameter → List Use → Store → Option BindError × Store → Prop
  | done {ordinal : Nat} {store : Store} : Performs registry nullType b argument ordinal [] [] store (none, store)
  | undeclared {ordinal : Nat} {p : Parameter} {rest : List Parameter} {store : Store} {e : BindError} :
      declared store ordinal p = .error e →
      Performs registry nullType b argument ordinal (p :: rest) [] store (some e, store)
  | passed {ordinal : Nat} {p : Parameter} {rest : List Parameter} {uses : List Use} {store store' : Store}
      {r : Option BindError × Store} : declared store ordinal p = .ok store' → p.mode.isInput = false →
      Performs registry nullType b argument (ordinal + 1) rest uses store' r →
      Performs registry nullType b argument ordinal (p :: rest) uses store r
  | unread {ordinal : Nat} {p : Parameter} {rest : List Parameter} {store store' : Store} {e : BindError} :
      declared store ordinal p = .ok store' → p.mode.isInput = true → valueOf registry b argument p = .error e →
      Performs registry nullType b argument ordinal (p :: rest) [] store (some e, store')
  | refused {ordinal : Nat} {rest : List Parameter} {u : Use} {store store' : Store} {e : BindError} :
      declared store ordinal u.parameter = .ok store' → u.parameter.mode.isInput = true →
      u.write nullType ordinal store' = .error e →
      Performs registry nullType b argument ordinal (u.parameter :: rest) [u] store (some e, store')
  | written {ordinal : Nat} {rest : List Parameter} {u : Use} {uses : List Use} {store store' store'' : Store}
      {r : Option BindError × Store} : declared store ordinal u.parameter = .ok store' →
      u.parameter.mode.isInput = true → u.write nullType ordinal store' = .ok store'' →
      Performs registry nullType b argument (ordinal + 1) rest uses store'' r →
      Performs registry nullType b argument ordinal (u.parameter :: rest) (u :: uses) store r

theorem usesInput_cases (b : BoundStatement) (argument : Value) (ordinal : Nat) (p : Parameter) (s : Binding) :
    (∃ e, valueOf s.binder.registry b argument p = .error e ∧ usesInput b argument p s = [] ∧
        writeInput b argument ordinal p s = .error e s) ∨
      ∃ u binder, u.parameter = p ∧ Extends s.binder binder ∧ usesInput b argument p s = [u] ∧
        writeInput b argument ordinal p s =
          match u.write s.binder.nullType ordinal s.store with
          | .ok store => .ok () ⟨binder, store⟩
          | .error e => .error e ⟨binder, s.store⟩ := by
  rw [usesInput, writeInput]
  cases valueOf s.binder.registry b argument p with
  | error e => exact .inl ⟨e, rfl, rfl, rfl⟩
  | ok v =>
    refine .inr ⟨_, _, rfl, extends_handlerFor s.binder p v (sqlTypeFor s.binder.nullType p v), rfl, ?_⟩
    dsimp only [Use.write]
    cases (s.binder.handlerFor p v (sqlTypeFor s.binder.nullType p v)).1.setParameter s.store ordinal v
        (sqlTypeFor s.binder.nullType p v) <;> rfl

theorem bindOne_of_input {b : BoundStatement} {argument : Value} {ordinal : Nat} {p : Parameter} {store : Store}
    (h : declared s.store ordinal p = .ok store) (hinput : p.mode.isInput = true) :
    usesOne b argument ordinal p s = usesInput b argument p { s with store } ∧
      bindOne b argument ordinal p s = writeInput b argument ordinal p { s with store } := by
  rw [usesOne, bindOne_of_declared h, h, hinput]
  exact ⟨rfl, rfl⟩

theorem bindOne_of_not_input {b : BoundStatement} {argument : Value} {ordinal : Nat} {p : Parameter} {store : Store}
    (h : declared s.store ordinal p = .ok store) (hinput : p.mode.isInput = false) :
    usesOne b argument ordinal p s = [] ∧ bindOne b argument ordinal p s = .ok () { s with store } := by
  rw [usesOne, bindOne_of_declared h, h, hinput]
  exact ⟨rfl, rfl⟩

theorem performs_bindFrom (b : BoundStatement) (argument : Value) (ordinal : Nat) (params : List Parameter)
    (s : Binding) :
    Performs s.binder.registry s.binder.nullType b argument ordinal params (usesFrom b argument ordinal params s)
      s.store (fault? (bindFrom b argument ordinal params s), (final (bindFrom b argument ordinal params s)).store) := by
  induction params generalizing s ordinal with
  | nil => exact .done
  | cons p rest ih =>
    rw [usesFrom, bindFrom]
    cases hdeclared : declared s.store ordinal p with
    | error e =>
      have hone := @bindOne_of_not_declared s b argument ordinal p e hdeclared
      rw [usesOne, hdeclared, hone, bind_of_error hone]
      exact .undeclared hdeclared
    | ok store =>
      cases hinput : p.mode.isInput with
      | false =>
        obtain ⟨huses, hone⟩ := @bindOne_of_not_input s b argument ordinal p store hdeclared hinput
        rw [huses, hone, bind_of_ok hone]
        exact .passed hdeclared hinput (ih (ordinal + 1) { s with store })
      | true =>
        obtain ⟨huses, hone⟩ := @bindOne_of_input s b argument ordinal p store hdeclared hinput
        rw [huses]
        rcases usesInput_cases b argument ordinal p { s with store } with
          ⟨e, hvalue, huses, hwrite⟩ | ⟨u, binder, rfl, hextends, huses, hwrite⟩
        · rw [hwrite] at hone
          rw [huses, hone, bind_of_error hone]
          exact .unread hdeclared hinput hvalue
        · rw [hwrite] at hone
          rw [huses]
          cases hu : u.write s.binder.nullType ordinal store with
          | error e =>
            rw [hu] at hone
            rw [hone, bind_of_error hone]
            exact .refused hdeclared hinput hu
          | ok store' =>
            rw [hu] at hone
            have hrest := ih (ordinal + 1) ⟨binder, store'⟩
            rw [hextends.registry, hextends.nullType] at hrest
            rw [hone, bind_of_ok hone]
            exact .written hdeclared hinput hu hrest

theorem Performs.parameters_eq {registry : Registry} {nullType : SqlType} {b : BoundStatement} {argument : Value}
    {ordinal : Nat} {params : List Parameter} {uses : List Use} {store : Store} {r : Option BindError × Store}
    (h : Performs registry nullType b argument ordinal params uses store r) (hr : r.1 = none) :
    uses.map Use.parameter = params.filter (·.mode.isInput) := by
  induction h with
  | done => rfl
  | undeclared => cases hr
  | passed _ hinput _ ih => rw [List.filter_cons, hinput, if_neg Bool.false_ne_true, ih hr]
  | unread => cases hr
  | refused => cases hr
  | written _ hinput _ _ ih => rw [List.filter_cons, hinput, if_pos rfl, List.map_cons, ih hr]

/-! ### What is remembered -/

/-- The binder has an entry for each of these keys, and no others. -/
structure Remembers (binder : Binder) (keys : List HandlerKey) : Prop where
  nodup : (binder.chosen.map Prod.fst).Nodup
  mem_iff : ∀ key, key ∈ binder.chosen.map Prod.fst ↔ key ∈ keys

theorem remembers_new (registry : Registry) (nullType : SqlType) :
    (new registry nullType).Remembers [] :=
  ⟨List.nodup_nil, fun _ => Iff.rfl⟩

theorem Remembers.length_eq {binder : Binder} {keys : List HandlerKey} (h : binder.Remembers keys) :
    binder.chosen.length = keys.dedup.length := by
  have hperm : (binder.chosen.map Prod.fst).Perm keys.dedup := by
    refine (List.perm_ext_iff_of_nodup h.nodup keys.nodup_dedup).2 fun key => ?_
    rw [List.mem_dedup]
    exact h.mem_iff key
  rw [← hperm.length_eq, List.length_map]

theorem Remembers.handlerFor {binder : Binder} {keys : List HandlerKey} (h : binder.Remembers keys)
    (p : Parameter) (v : Value) (handler : Handler) :
    (binder.handlerFor p v (sqlTypeFor binder.nullType p v)).2.Remembers
      (keys ++ [(⟨p, v, handler⟩ : Use)].filterMap (Use.key? binder.nullType)) := by
  rw [Binder.handlerFor]
  cases hp : p.handler with
  | some requested => simpa [Use.key?, hp] using h
  | none =>
    have hkey : [(⟨p, v, handler⟩ : Use)].filterMap (Use.key? binder.nullType) =
        [⟨p.property, v.dataType, p.type, sqlTypeFor binder.nullType p v⟩] := by
      simp [Use.key?, hp]
    rw [hkey]
    dsimp only
    cases hfind : binder.chosen.find? ⟨p.property, v.dataType, p.type, sqlTypeFor binder.nullType p v⟩ with
    | some remembered =>
      have hmem := (h.mem_iff _).1 (Assoc.mem_keys_of_find? hfind)
      refine ⟨h.nodup, fun key => ?_⟩
      rw [List.mem_append, List.mem_singleton, h.mem_iff]
      exact ⟨.inl, fun hkey => hkey.elim id fun heq => heq ▸ hmem⟩
    | none =>
      have hnew := (Assoc.find?_eq_none_iff _ _).1 hfind
      have hkeys := Assoc.keys_insert binder.chosen hfind
      refine ⟨?_, fun key => ?_⟩
      · rw [hkeys]
        exact List.nodup_append'.2 ⟨h.nodup, List.nodup_singleton _, by simpa using hnew⟩
      · rw [hkeys, List.mem_append, List.mem_append, h.mem_iff]

theorem Remembers.writeInput {keys : List HandlerKey} (h : s.binder.Remembers keys) (b : BoundStatement)
    (argument : Value) (ordinal : Nat) (p : Parameter) :
    (final (writeInput b argument ordinal p s)).binder.Remembers
      (keys ++ (usesInput b argument p s).filterMap (Use.key? s.binder.nullType)) := by
  rw [Binder.writeInput, usesInput]
  cases valueOf s.binder.registry b argument p with
  | error e => simpa [final] using h
  | ok v =>
    have hhandler := h.handlerFor p v (s.binder.handlerFor p v (sqlTypeFor s.binder.nullType p v)).1
    dsimp only
    split <;> exact hhandler

theorem Remembers.bindOne {keys : List HandlerKey} (h : s.binder.Remembers keys) (b : BoundStatement)
    (argument : Value) (ordinal : Nat) (p : Parameter) :
    (final (bindOne b argument ordinal p s)).binder.Remembers
      (keys ++ (usesOne b argument ordinal p s).filterMap (Use.key? s.binder.nullType)) := by
  rw [usesOne]
  cases hdeclared : declared s.store ordinal p with
  | error e =>
    rw [bindOne_of_not_declared hdeclared]
    simpa [final] using h
  | ok store =>
    rw [bindOne_of_declared hdeclared]
    dsimp only
    split
    · exact Remembers.writeInput (s := { s with store }) h b argument ordinal p
    · simpa [final] using h

theorem Remembers.bindFrom {keys : List HandlerKey} (h : s.binder.Remembers keys) (b : BoundStatement)
    (argument : Value) (ordinal : Nat) (params : List Parameter) :
    (final (bindFrom b argument ordinal params s)).binder.Remembers
      (keys ++ (usesFrom b argument ordinal params s).filterMap (Use.key? s.binder.nullType)) := by
  induction params generalizing s ordinal keys with
  | nil =>
    rw [usesFrom, List.filterMap_nil, List.append_nil]
    exact h
  | cons p params ih =>
    have hone := h.bindOne b argument ordinal p
    have hextends := @bindOne_preserves s.binder b argument ordinal p s (.refl _)
    rw [Binder.bindFrom, usesFrom, List.filterMap_append, ← List.append_assoc]
    cases hstep : Binder.bindOne b argument ordinal p s with
    | ok u s' =>
      rw [hstep] at hone hextends
      have hrest := ih (s := s') hone (ordinal + 1)
      rw [hextends.nullType] at hrest
      rw [bind_of_ok hstep]
      exact hrest
    | error e s' =>
      rw [hstep] at hone
      rw [bind_of_error hstep]
      simpa [final] using hone

theorem Remembers.bind {keys : List HandlerKey} (h : s.binder.Remembers keys) (b : BoundStatement)
    (argument : Value) :
    (final (bind b argument s)).binder.Remembers
      (keys ++ (uses b argument s).filterMap (Use.key? s.binder.nullType)) := by
  rw [uses]
  cases hvalid : b.validate with
  | error e =>
    rw [bind_of_invalid hvalid]
    simpa [final] using h
  | ok u =>
    rw [bind_of_valid hvalid]
    exact h.bindFrom b (navigable argument) 1 b.parameters

end Binder

/-! ### Calls -/

/-- A call of a binder: a statement and its argument, and what is in the store already. -/
structure Call where
  statement : BoundStatement
  argument : Value
  store : Store

namespace Call

def run (c : Call) (binder : Binder) : EStateM.Result BindError Binding Unit :=
  Binder.bind c.statement c.argument ⟨binder, c.store⟩

/-- The error of a call, if there is one, and the store after it. -/
def outcome (c : Call) (binder : Binder) : Option BindError × Store :=
  (fault? (c.run binder), (final (c.run binder)).store)

/-- The binder after a call. -/
def after (c : Call) (binder : Binder) : Binder := (final (c.run binder)).binder

/-- The handlers that are used in a call. -/
def uses (c : Call) (binder : Binder) : List Binder.Use :=
  Binder.uses c.statement c.argument ⟨binder, c.store⟩

/-- A call by uses: the fault that ends it, if there is one, and the store after it. Nothing is bound if the statement
has not a marker for each parameter. -/
inductive Performs (registry : Registry) (nullType : SqlType) (c : Call) :
    List Binder.Use → Option BindError × Store → Prop
  | invalid {e : BindError} : c.statement.validate = .error e → Performs registry nullType c [] (some e, c.store)
  | valid {uses : List Binder.Use} {r : Option BindError × Store} : c.statement.validate = .ok () →
      Binder.Performs registry nullType c.statement (Binder.navigable c.argument) 1 c.statement.parameters uses
        c.store r →
      Performs registry nullType c uses r

theorem Performs.parameters_eq {registry : Registry} {nullType : SqlType} {c : Call} {uses : List Binder.Use}
    {r : Option BindError × Store} (h : c.Performs registry nullType uses r) (hr : r.1 = none) :
    uses.map Binder.Use.parameter = c.statement.parameters.filter (·.mode.isInput) := by
  cases h with
  | invalid => cases hr
  | valid _ h => exact h.parameters_eq hr

theorem performs (c : Call) (binder : Binder) :
    c.Performs binder.registry binder.nullType (c.uses binder) (c.outcome binder) := by
  rw [uses, outcome, run, Binder.uses]
  cases hvalid : c.statement.validate with
  | error e =>
    rw [Binder.bind_of_invalid hvalid]
    exact .invalid hvalid
  | ok u =>
    rw [Binder.bind_of_valid hvalid]
    exact .valid hvalid (Binder.performs_bindFrom _ _ _ _ ⟨binder, c.store⟩)

end Call

namespace Binder

/-- The outcomes of calls one after the other. -/
def outcomes : Binder → List Call → List (Option BindError × Store)
  | _, [] => []
  | binder, c :: rest => c.outcome binder :: outcomes (c.after binder) rest

/-- The handlers that are used in calls one after the other. -/
def callUses : Binder → List Call → List Use
  | _, [] => []
  | binder, c :: rest => c.uses binder ++ callUses (c.after binder) rest

/-- The binder after calls one after the other. -/
def afterCalls : Binder → List Call → Binder := List.foldl fun binder c => c.after binder

variable {binder : Binder}

theorem extends_after (c : Call) (binder : Binder) : Extends binder (c.after binder) := by
  have hextends := @bind_preserves binder c.statement c.argument ⟨binder, c.store⟩ (.refl _)
  rw [Call.after, Call.run]
  cases h : bind c.statement c.argument ⟨binder, c.store⟩ with
  | ok u s =>
    rw [h] at hextends
    exact hextends
  | error e s =>
    rw [h] at hextends
    exact hextends

theorem outcome_forget (hsound : binder.Sound) (c : Call) :
    c.outcome binder = c.outcome (new binder.registry binder.nullType) := by
  have hsame := bind_transparent c.statement c.argument ⟨binder, c.store⟩ hsound
  have hfault := congrArg fault? hsame
  have hstore := congrArg (fun r => (final r).store) hsame
  simp only [fault?_forgetting, store_final_forgetting] at hfault hstore
  exact Prod.ext hfault hstore

theorem outcomes_eq (hsound : binder.Sound) (calls : List Call) :
    outcomes binder calls = calls.map (·.outcome (new binder.registry binder.nullType)) := by
  induction calls generalizing binder with
  | nil => rfl
  | cons c calls ih =>
    have hextends := extends_after c binder
    rw [outcomes, ih (hextends.sound hsound), hextends.registry, hextends.nullType,
      outcome_forget hsound, List.map_cons]

theorem callUses_eq (hsound : binder.Sound) (calls : List Call) :
    callUses binder calls = calls.flatMap (·.uses (new binder.registry binder.nullType)) := by
  induction calls generalizing binder with
  | nil => rfl
  | cons c calls ih =>
    have hextends := extends_after c binder
    have huses : c.uses binder = c.uses (new binder.registry binder.nullType) :=
      (uses_forget (s := ⟨binder, c.store⟩) hsound).symm
    rw [callUses, ih (hextends.sound hsound), hextends.registry, hextends.nullType, huses,
      List.flatMap_cons]

theorem Remembers.afterCalls {keys : List HandlerKey} (h : binder.Remembers keys) (calls : List Call) :
    (afterCalls binder calls).Remembers
      (keys ++ (callUses binder calls).filterMap (Use.key? binder.nullType)) := by
  induction calls generalizing binder keys with
  | nil =>
    rw [callUses, List.filterMap_nil, List.append_nil]
    exact h
  | cons c calls ih =>
    have hcall : (c.after binder).Remembers
        (keys ++ (c.uses binder).filterMap (Use.key? binder.nullType)) :=
      Remembers.bind (s := ⟨binder, c.store⟩) h c.statement c.argument
    have hrest := ih hcall
    rw [(extends_after c binder).nullType, List.append_assoc, ← List.filterMap_append] at hrest
    exact hrest

/-- Calls of one binder, whatever their statements, arguments and outcomes. Each ends, and leaves the
store, as it does with a binder that is called for the first time. This is what comes of giving the values of its
uses to their handlers, one after the other. Each use is of a parameter for input, with its value and the handler that
the rule gives, and if the call succeeds there is one for each such parameter, in order. The binder has an entry for
each combination of property, value type, declared type and SQL type of a use whose handler was not asked for. -/
theorem calls_transparent (registry : Registry) (nullType : SqlType) (calls : List Call) :
    outcomes (new registry nullType) calls = calls.map (·.outcome (new registry nullType)) ∧
    callUses (new registry nullType) calls = calls.flatMap (·.uses (new registry nullType)) ∧
    (∀ c ∈ calls,
      c.Performs registry nullType (c.uses (new registry nullType)) (c.outcome (new registry nullType)) ∧
      (∀ u ∈ c.uses (new registry nullType),
        u.Regular registry nullType c.statement (navigable c.argument)) ∧
      ((c.outcome (new registry nullType)).1 = none →
        (c.uses (new registry nullType)).map Use.parameter =
          c.statement.parameters.filter (·.mode.isInput))) ∧
    (afterCalls (new registry nullType) calls).chosen.length =
      ((callUses (new registry nullType) calls).filterMap (Use.key? nullType)).dedup.length := by
  have hsound := sound_new registry nullType
  refine ⟨outcomes_eq hsound calls, callUses_eq hsound calls, fun c _ => ?_, ?_⟩
  · have hperforms := c.performs (new registry nullType)
    exact ⟨hperforms, fun u hu => regular_of_mem_uses (s := ⟨_, c.store⟩) hsound hu, hperforms.parameters_eq⟩
  · exact ((remembers_new registry nullType).afterCalls calls).length_eq

end Binder

end DynamicSql
