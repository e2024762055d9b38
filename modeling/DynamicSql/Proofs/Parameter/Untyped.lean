import DynamicSql.Proofs.Parameter.Part
import DynamicSql.Proofs.Step

/-!
# What the types of parameters depend on

The variables and the type of the argument that placeholders are resolved with settle nothing but the
types of the parameters: without these, resolvers of the same handlers and type names give the same
statement, or fail alike (`Resolver.resolve_untyped`). Where the same type is inferred for a property,
the parameters are the same altogether (`Resolver.parameter_congr`).
-/

namespace DynamicSql

open Step

/-- The parameter with the open type in place of its own. -/
def Parameter.untyped (p : Parameter) : Parameter := { p with type := .any }

namespace Resolver

open Parameter (untyped)

variable {r r₁ r₂ : Resolver}

/-! ### Attributes -/

theorem applyAttribute_congr (h : r₁.aliases = r₂.aliases) : r₁.applyAttribute = r₂.applyAttribute := by
  funext body sqlType p name value
  unfold applyAttribute
  rw [h]

theorem applyAttribute_retyped (body : String) (sqlType : Option SqlType) (p : Parameter)
    (t : DataType) (name value : String) :
    (r.applyAttribute body sqlType { p with type := t } name value).map untyped =
      (r.applyAttribute body sqlType p name value).map untyped := by
  unfold applyAttribute
  split
  · cases (r.aliases.resolve value).mapError BindError.data <;> rfl
  · rfl
  · cases Mode.ofName value <;> rfl
  · split <;> rfl
  · rfl
  · rfl
  · rfl
  · rfl
  · rfl
  · rfl

theorem applyAttribute_type {body : String} {sqlType : Option SqlType} {p q : Parameter}
    {name value : String} (h : r.applyAttribute body sqlType p name value = .ok q) (t : DataType) :
    r.applyAttribute body sqlType { p with type := t } name value = .ok q ∨
      r.applyAttribute body sqlType { p with type := t } name value = .ok { q with type := t } := by
  unfold applyAttribute at h ⊢
  split at h
  · exact .inl h
  · cases h
    exact .inr rfl
  · obtain ⟨mode, hmode, h⟩ := except_bind_eq_ok.1 h
    cases h
    exact .inr (by rw [hmode]; rfl)
  · split at h
    · cases h
      exact .inr rfl
    · cases h
  · cases h
    exact .inr rfl
  · cases h
    exact .inr rfl
  · cases h
    exact .inr rfl
  · cases h
    exact .inr rfl
  · cases h
  · cases h

theorem property_of_applyAttribute {body : String} {sqlType : Option SqlType} {p q : Parameter}
    {name value : String} (h : r.applyAttribute body sqlType p name value = .ok q) :
    q.property = p.property := by
  unfold applyAttribute at h
  split at h
  · obtain ⟨t, -, h⟩ := except_bind_eq_ok.1 h
    cases h
    rfl
  · cases h
    rfl
  · obtain ⟨t, -, h⟩ := except_bind_eq_ok.1 h
    cases h
    rfl
  · split at h
    · cases h
      rfl
    · cases h
  · cases h
    rfl
  · cases h
    rfl
  · cases h
    rfl
  · cases h
    rfl
  · cases h
  · cases h


theorem applyAttributes_cons (body : String) (sqlType : Option SqlType) (p : Parameter)
    (name value : String) (attributes : List (String × String)) :
    r.applyAttributes body sqlType p ((name, value) :: attributes) =
      r.applyAttribute body sqlType p name value >>= fun q => r.applyAttributes body sqlType q attributes :=
  List.foldlM_cons

theorem map_untyped_eq {x y : Except BindError Parameter} (h : x.map untyped = y.map untyped) :
    (∃ e, x = .error e ∧ y = .error e) ∨ ∃ p t, x = .ok { p with type := t } ∧ y = .ok p := by
  cases x with
  | error e =>
    cases y with
    | error e' =>
      cases h
      exact .inl ⟨e, rfl, rfl⟩
    | ok q => cases h
  | ok p =>
    cases y with
    | error e => cases h
    | ok q =>
      refine .inr ⟨q, p.type, ?_, rfl⟩
      obtain ⟨⟩ := p
      obtain ⟨⟩ := q
      cases h
      rfl

theorem applyAttributes_retyped (body : String) (sqlType : Option SqlType)
    (attributes : List (String × String)) (p : Parameter) (t : DataType) :
    (r.applyAttributes body sqlType { p with type := t } attributes).map untyped =
      (r.applyAttributes body sqlType p attributes).map untyped := by
  induction attributes generalizing p t with
  | nil => rfl
  | cons e attributes ih =>
    obtain ⟨name, value⟩ := e
    rw [applyAttributes_cons, applyAttributes_cons]
    rcases map_untyped_eq (r.applyAttribute_retyped body sqlType p t name value) with
      ⟨e, hx, hy⟩ | ⟨q, u, hx, hy⟩
    · rw [hx, hy]
    · rw [hx, hy]
      exact ih q u

theorem applyAttributes_type {body : String} {sqlType : Option SqlType} {p q : Parameter}
    {attributes : List (String × String)} (h : r.applyAttributes body sqlType p attributes = .ok q)
    (t : DataType) :
    r.applyAttributes body sqlType { p with type := t } attributes = .ok q ∨
      r.applyAttributes body sqlType { p with type := t } attributes = .ok { q with type := t } := by
  induction attributes generalizing p with
  | nil =>
    cases h
    exact .inr rfl
  | cons e attributes ih =>
    obtain ⟨name, value⟩ := e
    rw [applyAttributes_cons] at h
    obtain ⟨p', hp, h⟩ := except_bind_eq_ok.1 h
    rw [applyAttributes_cons]
    rcases applyAttribute_type hp t with hp | hp
    · exact .inl (except_bind_eq_ok.2 ⟨p', hp, h⟩)
    · rcases ih h with hq | hq
      · exact .inl (except_bind_eq_ok.2 ⟨_, hp, hq⟩)
      · exact .inr (except_bind_eq_ok.2 ⟨_, hp, hq⟩)

theorem property_of_applyAttributes {body : String} {sqlType : Option SqlType} {p q : Parameter}
    {attributes : List (String × String)} (h : r.applyAttributes body sqlType p attributes = .ok q) :
    q.property = p.property := by
  induction attributes generalizing p with
  | nil =>
    cases h
    rfl
  | cons e attributes ih =>
    obtain ⟨name, value⟩ := e
    rw [applyAttributes_cons] at h
    obtain ⟨p', hp, h⟩ := except_bind_eq_ok.1 h
    rw [ih h, property_of_applyAttribute hp]

/-! ### Parameters -/

theorem parameter_eq_ok {body : String} {p : Parameter} :
    r.parameter body = .ok p ↔
      ∃ placeholder sqlType q handler, Placeholder.parse body = .ok placeholder ∧
        declaredSqlType placeholder = .ok sqlType ∧
        r.applyAttributes body sqlType
          (.ofType placeholder.property (r.inferType placeholder.property sqlType))
          placeholder.attributes = .ok q ∧
        r.requestedHandler placeholder.attributes = .ok handler ∧ p = { q with handler } := by
  rw [parameter, except_bind_eq_ok]
  constructor
  · rintro ⟨placeholder, hparse, h⟩
    obtain ⟨sqlType, hsql, h⟩ := except_bind_eq_ok.1 h
    obtain ⟨q, hq, h⟩ := except_bind_eq_ok.1 h
    obtain ⟨handler, hhandler, h⟩ := except_bind_eq_ok.1 h
    exact ⟨placeholder, sqlType, q, handler, hparse, hsql, hq, hhandler, (Except.ok.inj h).symm⟩
  · rintro ⟨placeholder, sqlType, q, handler, hparse, hsql, hq, hhandler, rfl⟩
    refine ⟨placeholder, hparse, except_bind_eq_ok.2 ⟨sqlType, hsql, ?_⟩⟩
    exact except_bind_eq_ok.2 ⟨q, hq, except_bind_eq_ok.2 ⟨handler, hhandler, rfl⟩⟩

theorem applyAttributes_congr (h : r₁.aliases = r₂.aliases) :
    r₁.applyAttributes = r₂.applyAttributes := by
  funext body sqlType p attributes
  rw [applyAttributes, applyAttributes, applyAttribute_congr h]

theorem requestedHandler_congr (h : r₁.registry = r₂.registry) :
    r₁.requestedHandler = r₂.requestedHandler := by
  funext attributes
  rw [requestedHandler, requestedHandler, h]

theorem parameter_untyped (hregistry : r₁.registry = r₂.registry) (haliases : r₁.aliases = r₂.aliases)
    (body : String) : (r₁.parameter body).map untyped = (r₂.parameter body).map untyped := by
  rw [parameter, parameter, applyAttributes_congr haliases, requestedHandler_congr hregistry]
  cases Placeholder.parse body with
  | error e => rfl
  | ok placeholder =>
    cases hsql : declaredSqlType placeholder with
    | error e => simp [bind, Except.bind, hsql]
    | ok sqlType =>
      have hfold := r₂.applyAttributes_retyped body sqlType placeholder.attributes
        (.ofType placeholder.property (r₂.inferType placeholder.property sqlType))
        (r₁.inferType placeholder.property sqlType)
      change (r₂.applyAttributes body sqlType
        (.ofType placeholder.property (r₁.inferType placeholder.property sqlType)) _).map untyped = _
        at hfold
      simp only [bind, Except.bind, hsql]
      rcases map_untyped_eq hfold with ⟨e, hx, hy⟩ | ⟨q, t, hx, hy⟩
      · rw [hx, hy]
      · rw [hx, hy]
        cases r₂.requestedHandler placeholder.attributes <;> rfl

theorem parameter_eq_or_inferred (hregistry : r₁.registry = r₂.registry)
    (haliases : r₁.aliases = r₂.aliases) {body : String} {p₁ p₂ : Parameter}
    (h₁ : r₁.parameter body = .ok p₁) (h₂ : r₂.parameter body = .ok p₂) :
    p₂ = p₁ ∨ ∃ sqlType, p₂ = { p₁ with type := r₂.inferType p₁.property sqlType } := by
  obtain ⟨placeholder, sqlType, q, handler, hparse, hsql, hq, hhandler, rfl⟩ := parameter_eq_ok.1 h₁
  have hproperty : q.property = placeholder.property := property_of_applyAttributes hq
  rw [applyAttributes_congr haliases] at hq
  rw [requestedHandler_congr hregistry] at hhandler
  have heq : ∀ q', r₂.applyAttributes body sqlType
      (.ofType placeholder.property (r₂.inferType placeholder.property sqlType))
      placeholder.attributes = .ok q' → p₂ = { q' with handler } := by
    intro q' hq'
    have h := parameter_eq_ok.2 ⟨placeholder, sqlType, q', handler, hparse, hsql, hq', hhandler, rfl⟩
    exact Except.ok.inj (h₂.symm.trans h)
  rcases applyAttributes_type hq (r₂.inferType placeholder.property sqlType) with hq' | hq'
  · exact .inl (heq q hq')
  · refine .inr ⟨sqlType, (heq _ hq').trans ?_⟩
    rw [← hproperty]

theorem parameter_eq_of_inferType (hregistry : r₁.registry = r₂.registry) (haliases : r₁.aliases = r₂.aliases)
    {body : String} (hinfer : ∀ placeholder, Placeholder.parse body = .ok placeholder → ∀ sqlType,
      r₁.inferType placeholder.property sqlType = r₂.inferType placeholder.property sqlType) :
    r₁.parameter body = r₂.parameter body := by
  rw [parameter, parameter, applyAttributes_congr haliases, requestedHandler_congr hregistry]
  cases hparse : Placeholder.parse body with
  | error e => rfl
  | ok placeholder =>
    show (declaredSqlType placeholder >>= _) = (declaredSqlType placeholder >>= _)
    refine bind_congr fun sqlType => ?_
    rw [hinfer placeholder hparse sqlType]

theorem exists_property_of_parameter {body : String} {p : Parameter} (h : r.parameter body = .ok p) :
    ∃ placeholder, Placeholder.parse body = .ok placeholder ∧ p.property = placeholder.property := by
  obtain ⟨placeholder, sqlType, q, handler, hparse, -, hq, -, rfl⟩ := parameter_eq_ok.1 h
  exact ⟨placeholder, hparse, property_of_applyAttributes hq⟩

theorem parameter_congr (hregistry : r₁.registry = r₂.registry) (haliases : r₁.aliases = r₂.aliases)
    {body : String} {p₁ p₂ : Parameter} (h₁ : r₁.parameter body = .ok p₁)
    (h₂ : r₂.parameter body = .ok p₂)
    (hinfer : ∀ sqlType, r₁.inferType p₁.property sqlType = r₂.inferType p₁.property sqlType) :
    p₁ = p₂ := by
  obtain ⟨placeholder, hparse, hproperty⟩ := exists_property_of_parameter h₁
  have hsame : r₁.parameter body = r₂.parameter body := by
    refine parameter_eq_of_inferType hregistry haliases fun placeholder' hparse' sqlType => ?_
    obtain rfl := Except.ok.inj (hparse.symm.trans hparse')
    rw [← hproperty]
    exact hinfer sqlType
  exact Except.ok.inj (h₁.symm.trans (hsame.trans h₂))

end Resolver

/-! ### Statements -/

namespace BoundStatement

/-- The statement without its variables and without the types of its parameters. -/
def untyped (b : BoundStatement) : BoundStatement :=
  { b with parameters := b.parameters.map Parameter.untyped, bindings := [] }

/-- The part without the type of its parameter. -/
def Part.untyped : Part → Part
  | .sql text => .sql text
  | .parameter p => .parameter p.untyped

theorem ofParts_untyped (parts : List Part) :
    ofParts (parts.map Part.untyped) = (ofParts parts).untyped := by
  have hlayout : (parts.map Part.untyped).map Part.layout = parts.map Part.layout := by
    rw [List.map_map]
    exact List.map_congr_left fun part _ => by cases part <;> rfl
  have hparameters : parametersOf (parts.map Part.untyped) =
      (parametersOf parts).map Parameter.untyped := by
    induction parts with
    | nil => rfl
    | cons part parts ih => cases part <;> simp [parametersOf, Part.untyped, ih (List.cons.inj hlayout).2]
  rw [ofParts, textOf_congr hlayout, offsetsFrom_congr hlayout, hparameters]
  rfl

end BoundStatement

namespace Resolver

open BoundStatement

variable {r₁ r₂ : Resolver}

theorem part_untyped (hregistry : r₁.registry = r₂.registry) (haliases : r₁.aliases = r₂.aliases)
    (piece : Piece) : (r₁.part piece).map Part.untyped = (r₂.part piece).map Part.untyped := by
  cases piece with
  | plain text => rfl
  | token body =>
    rw [part, part]
    rcases map_untyped_eq (parameter_untyped hregistry haliases (String.ofList body)) with
      ⟨e, hx, hy⟩ | ⟨p, t, hx, hy⟩
    · rw [hx, hy]
    · rw [hx, hy]
      rfl

/-- Resolvers of the same handlers and type names give the same statement but for types, or fail with
the same error. -/
theorem resolve_untyped (hregistry : r₁.registry = r₂.registry) (haliases : r₁.aliases = r₂.aliases)
    (sql : String) :
    (r₁.resolve sql).map BoundStatement.untyped = (r₂.resolve sql).map BoundStatement.untyped := by
  have hparts := map_mapM r₁.part Part.untyped (Delimiters.placeholder.pieces false sql.toList)
  simp only [part_untyped hregistry haliases] at hparts
  rw [← map_mapM] at hparts
  have hofParts : ∀ x : Except BindError (List Part),
      (x.map ofParts).map BoundStatement.untyped = (x.map (List.map Part.untyped)).map ofParts := by
    intro x
    cases x with
    | error e => rfl
    | ok parts => exact congrArg Except.ok (ofParts_untyped parts).symm
  rw [resolve_eq, resolve_eq, hofParts, hofParts, hparts]

theorem parameters_of_resolve {sql : String} {b₁ b₂ : BoundStatement} (h₁ : r₁.resolve sql = .ok b₁)
    (h₂ : r₂.resolve sql = .ok b₂) :
    List.Forall₂ (fun p₁ p₂ => ∃ body, r₁.parameter body = .ok p₁ ∧ r₂.parameter body = .ok p₂)
      b₁.parameters b₂.parameters := by
  rw [resolve_eq, except_map_eq_ok] at h₁ h₂
  obtain ⟨parts₁, hparts₁, rfl⟩ := h₁
  obtain ⟨parts₂, hparts₂, rfl⟩ := h₂
  show List.Forall₂ _ (parametersOf parts₁) (parametersOf parts₂)
  generalize Delimiters.placeholder.pieces false sql.toList = pieces at hparts₁ hparts₂
  rw [mapM_eq_ok] at hparts₁ hparts₂
  induction hparts₁ generalizing parts₂ with
  | nil =>
    cases hparts₂
    exact .nil
  | @cons piece part₁ pieces parts₁ hpart₁ _ ih =>
    obtain ⟨part₂, parts₂, hpart₂, hrest₂, rfl⟩ := List.forall₂_cons_left_iff.1 hparts₂
    have ih := ih parts₂ hrest₂
    cases piece with
    | plain text =>
      cases hpart₁
      cases hpart₂
      exact ih
    | token body =>
      obtain ⟨p₁, hp₁, rfl⟩ := except_map_eq_ok.1 hpart₁
      obtain ⟨p₂, hp₂, rfl⟩ := except_map_eq_ok.1 hpart₂
      exact .cons ⟨_, hp₁, hp₂⟩ ih

end Resolver

end DynamicSql
