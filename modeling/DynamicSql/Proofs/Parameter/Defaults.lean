import DynamicSql.Proofs.Parameter.Bind
import DynamicSql.Proofs.Path.Found

/-!
# The handlers that are known from the start

With these handlers every value of an inferred type is written as it is (`keeps_of_inferType`): values of
the direct types are coerced to their own type, and all others are taken by the generic handler.
-/

namespace DynamicSql

open Step

namespace Registry

theorem byType_defaults :
    defaults.byType = directTypes.map fun t => (t, [(none, Handler.coercing t)]) := by
  rfl

theorem find?_map {κ α : Type} [DecidableEq κ] (g : κ → α) (keys : List κ) (k : κ) :
    Assoc.find? (keys.map fun k => (k, g k)) k = if k ∈ keys then some (g k) else none := by
  induction keys with
  | nil => rfl
  | cons k' keys ih =>
    rw [List.map_cons, Assoc.find?, ih]
    by_cases h : k = k'
    · subst h
      simp
    · simp [h]

theorem isDirect_defaults (t : DataType) : defaults.isDirect t = decide (t ∈ directTypes) := by
  rw [isDirect, byType_defaults, find?_map (fun t => [(none, Handler.coercing t)])]
  split <;> simp_all

theorem get?_defaults (t : DataType) (sqlType : Option SqlType) :
    defaults.get? t sqlType = if t ∈ directTypes then some (.coercing t) else none := by
  rw [get?, byType_defaults, find?_map (fun t => [(none, Handler.coercing t)])]
  split
  · cases sqlType <;> rfl
  · rfl

end Registry

open Registry

namespace Binder

variable {p : Parameter} {v : Value}

theorem choose_defaults (property : String) (valueType declaredType : DataType) :
    choose defaults ⟨property, valueType, declaredType, none⟩ =
      if valueType ∈ directTypes then .coercing valueType
      else if declaredType ∈ directTypes then .coercing declaredType else generic := by
  rw [choose]
  dsimp only
  rw [get?_defaults, get?_defaults]
  split
  · rfl
  · split <;> rfl

theorem keeps_defaults (h : p.type ∉ directTypes ∨ p.type = v.dataType) : Keeps defaults p v := by
  intro _ ordinal
  rw [choose_defaults]
  by_cases hdirect : v.dataType ∈ directTypes
  · rw [if_pos hdirect, Handler.convert, Value.coerce_dataType]
    rfl
  · have hdeclared : p.type ∉ directTypes := by
      rcases h with h | h
      · exact h
      · rwa [h]
    rw [if_neg hdirect, if_neg hdeclared]
    rfl

/-- A parameter of an inferred type keeps the value that it reads, if its property begins with a
name: then the type is that of a variable which holds the value, or open. -/
theorem keeps_of_inferType {r : Resolver} (hdirect : r.registry.isDirect r.argumentType = false)
    (htype : r.argumentType = .map ∨ r.argumentType = .any) {b : BoundStatement}
    (hbindings : b.bindings = r.bindings) {argument : Value} {path : Path}
    (hpath : Path.parse p.property = .ok path) (hroot : path.root ≠ "") {sqlType : Option SqlType}
    (hinfer : p.type = r.inferType p.property sqlType)
    (hvalue : valueOf defaults b argument p = .ok v) : Keeps defaults p v := by
  have hopen : ∀ t : DataType, (t = if sqlType = some .cursor then .cursor else .any) →
      t ∉ directTypes := by
    intro t ht
    split at ht <;> subst ht <;> decide
  intro hnull
  refine keeps_defaults ?_ hnull
  rw [Resolver.inferType_eq hdirect htype hpath] at hinfer
  obtain ⟨key, rest, hkeys⟩ := Path.exists_keys_of_parse hpath
  have hkey : path.root = key := (Path.root_eq_key hkeys).resolve_left hroot
  cases hfound : (Value.map r.bindings).typeAt? path with
  | none =>
    rw [hfound] at hinfer
    exact .inl (hopen _ hinfer)
  | some t =>
    rw [hfound] at hinfer
    have hbound : b.hasBinding path.root = true := by
      rw [BoundStatement.hasBinding, Table.contains, hbindings, hkey]
      cases habsent : r.bindings.find? key with
      | none =>
        rw [Value.typeAt?_of_absent hkeys habsent] at hfound
        cases hfound
      | some _ => rfl
    obtain ⟨path', hpath', hread⟩ := valueOf_eq_ok.1 hvalue
    obtain rfl := Except.ok.inj (hpath.symm.trans hpath')
    rw [hbound, if_pos rfl, hbindings] at hread
    have htype := Value.dataType_eq_of_typeAt? hread hnull
    exact .inr (hinfer.trans (Option.some.inj (hfound.symm.trans htype)))

theorem bare_of_inferType {r : Resolver} (hdirect : r.registry.isDirect r.argumentType = false)
    (htype : r.argumentType = .map ∨ r.argumentType = .any) {b : BoundStatement}
    (hbindings : b.bindings = r.bindings) {property : String} {path : Path}
    (hpath : Path.parse property = .ok path) (hroot : path.root ≠ "") {argument : Value} :
    Bare (.ofType property (r.inferType property none)) ∧
      ∀ v, valueOf defaults b argument (.ofType property (r.inferType property none)) = .ok v →
        Keeps defaults (.ofType property (r.inferType property none)) v := by
  refine ⟨rfl, fun v hvalue => ?_⟩
  exact keeps_of_inferType hdirect htype hbindings hpath hroot rfl hvalue

end Binder

end DynamicSql
