import DynamicSql.Mapper.Statement
import DynamicSql.Proofs.Parameter.Defaults
import DynamicSql.Proofs.Template.Render

/-!
# Statements that are rendered once

A statement whose template is not dynamic is rendered once, before any argument is known.
-/

namespace DynamicSql

open Step

/-! ### Templates that are not dynamic -/

namespace Node

theorem not_dynamic_of_mem {children : List Node} (h : anyDynamic children = false) {n : Node}
    (hn : n ∈ children) : n.isDynamic = false := by
  induction children with
  | nil => cases hn
  | cons m children ih =>
    rw [anyDynamic, Bool.or_eq_false_iff] at h
    rcases List.mem_cons.1 hn with rfl | hn
    · exact h.1
    · exact ih h.2 hn

theorem exists_text_of_renderAll {children : List Node}
    (h : ∀ n ∈ children, ∃ s, ∀ f, n.render f = .ok true (f.append s)) :
    ∃ s, ∀ f, renderAll children f = .ok () (f.append s) := by
  induction children with
  | nil =>
    refine ⟨"", fun f => ?_⟩
    rw [renderAll, Frame.append, String.append_empty]
    rfl
  | cons n children ih =>
    obtain ⟨s, hs⟩ := h n (.head _)
    obtain ⟨t, ht⟩ := ih fun m hm => h m (.tail _ hm)
    refine ⟨s ++ t, fun f => ?_⟩
    have happend : f.append (s ++ t) = (f.append s).append t := by
      simp only [Frame.append, String.append_assoc]
    rw [renderAll, happend]
    exact bind_eq_ok.2 ⟨(), f.append s, discard_eq_ok.2 ⟨true, hs f⟩, ht _⟩

theorem exists_text_of_render {n : Node} (h : n.isDynamic = false) :
    ∃ s, ∀ f, n.render f = .ok true (f.append s) := by
  induction n with
  | text s => exact ⟨s, render_text s⟩
  | composite children ih =>
    rw [isDynamic] at h
    obtain ⟨s, hs⟩ := exists_text_of_renderAll fun n hn => ih n hn (not_dynamic_of_mem h hn)
    refine ⟨s, fun f => ?_⟩
    rw [render]
    exact bind_eq_ok.2 ⟨(), f.append s, hs f, rfl⟩
  | _ => cases h

theorem exists_sql_of_renderFor {n : Node} (h : n.isDynamic = false) :
    ∃ s, ∀ argument databaseId,
      n.renderFor argument databaseId = .ok ⟨s, (Frame.start argument databaseId).bindings⟩ := by
  obtain ⟨s, hs⟩ := exists_text_of_render h
  refine ⟨s, fun argument databaseId => ?_⟩
  rw [renderFor, hs]
  dsimp only [Frame.append, Frame.start]
  rw [String.empty_append]

end Node

/-! ### The variables of the context -/

/-- Whether a name is that of a variable which every rendering binds. -/
def IsContextName (name : String) : Prop := name = Frame.argumentKey ∨ name = Frame.databaseIdKey

theorem find?_start_bindings {argument : Value} {databaseId : Option String} {name : String}
    (h : ¬ IsContextName name) : (Frame.start argument databaseId).bindings.find? name = none := by
  obtain ⟨hargument, hdatabaseId⟩ := not_or.1 h
  exact (Table.find?_insert_of_ne _ _ hdatabaseId).trans (Table.find?_insert_of_ne [] _ hargument)

/-- The parameter reads a variable of the context, as its property begins with the name of one. -/
def Parameter.ReadsContext (p : Parameter) : Prop :=
  ∃ path key rest, Path.parse p.property = .ok path ∧ path.keys = key :: rest ∧ IsContextName key

theorem Parameter.find?_of_not_readsContext {p : Parameter} (h : ¬ p.ReadsContext) {path : Path}
    {key : String} {rest : List String} (hpath : Path.parse p.property = .ok path)
    (hkeys : path.keys = key :: rest) (argument : Value) (databaseId : Option String) :
    (Frame.start argument databaseId).bindings.find? key = none :=
  find?_start_bindings fun hkey => h ⟨path, key, rest, hpath, hkeys, hkey⟩

/-! ### Both ways to make a statement -/

namespace MappedStatement

variable {s : MappedStatement} {n : Node} {registry : Registry} {aliases : Aliases}

/-- The statement of a template for an argument, made as the template asks for: once for all arguments,
or anew if the template is dynamic. -/
def bound (s : MappedStatement) (n : Node) (registry : Registry) (aliases : Aliases) (argument : Value)
    (databaseId : Option String) : Except MapperError BoundStatement := do
  let source ← Source.ofTemplate s.id n s.parameterType registry aliases
  { s with source }.bindTo argument databaseId registry aliases

/-- The statement of a template, made anew for an argument. -/
def boundAnew (s : MappedStatement) (n : Node) (registry : Registry) (aliases : Aliases)
    (argument : Value) (databaseId : Option String) : Except MapperError BoundStatement :=
  { s with source := .dynamic n }.bindTo argument databaseId registry aliases

/-- What the placeholders of a statement are resolved with if it is made once. -/
def resolverOnce (s : MappedStatement) (registry : Registry) (aliases : Aliases) : Resolver :=
  ⟨registry, aliases, s.parameterType.getD .any, []⟩

/-- What the placeholders of a statement are resolved with if it is made anew and its template binds
no variables. -/
def resolverAnew (s : MappedStatement) (registry : Registry) (aliases : Aliases) (argument : Value)
    (databaseId : Option String) : Resolver :=
  ⟨registry, aliases, s.parameterType.getD argument.dataType,
    (Frame.start argument databaseId).bindings⟩

theorem exists_sql_of_bound (hn : n.isDynamic = false) (s : MappedStatement) (registry : Registry)
    (aliases : Aliases) :
    ∃ sql, ∀ argument databaseId,
      s.bound n registry aliases argument databaseId =
        ((s.resolverOnce registry aliases).resolve sql).mapError (.binding s.id) ∧
      s.boundAnew n registry aliases argument databaseId =
        (((s.resolverAnew registry aliases argument databaseId).resolve sql).mapError (.binding s.id)).map
          (·.withBindings (Frame.start argument databaseId).bindings) := by
  obtain ⟨sql, hsql⟩ := Node.exists_sql_of_renderFor hn
  refine ⟨sql, fun argument databaseId => ⟨?_, ?_⟩⟩
  · rw [bound, Source.ofTemplate, hn, if_neg Bool.false_ne_true, hsql]
    simp only [Except.mapError, bind, Except.bind]
    rw [resolverOnce]
    cases (⟨registry, aliases, s.parameterType.getD .any, []⟩ : Resolver).resolve sql <;> rfl
  · rw [boundAnew, bindTo]
    dsimp only
    rw [hsql, resolverAnew]
    simp only [Except.mapError, bind, Except.bind]
    cases (⟨registry, aliases, s.parameterType.getD argument.dataType,
      (Frame.start argument databaseId).bindings⟩ : Resolver).resolve sql <;> rfl

/-- Both ways give the same text, the same markers and the same parameters but for their types, or fail
alike. -/
theorem bound_untyped (hn : n.isDynamic = false) (argument : Value) (databaseId : Option String) :
    (s.bound n registry aliases argument databaseId).map BoundStatement.untyped =
      (s.boundAnew n registry aliases argument databaseId).map BoundStatement.untyped := by
  obtain ⟨sql, hsql⟩ := exists_sql_of_bound hn s registry aliases
  obtain ⟨honce, hanew⟩ := hsql argument databaseId
  have huntyped : ((s.resolverOnce registry aliases).resolve sql).map BoundStatement.untyped =
      ((s.resolverAnew registry aliases argument databaseId).resolve sql).map BoundStatement.untyped :=
    Resolver.resolve_untyped (by rfl) (by rfl) sql
  rw [honce, hanew]
  cases h₁ : (s.resolverOnce registry aliases).resolve sql <;>
    cases h₂ : (s.resolverAnew registry aliases argument databaseId).resolve sql <;>
    rw [h₁, h₂] at huntyped
  · cases huntyped
    rfl
  · cases huntyped
  · cases huntyped
  · exact congrArg Except.ok (Except.ok.inj huntyped)

/-- A part that is never rendered makes the template dynamic, and else changes nothing. -/
theorem bound_never (hn : n.isDynamic = false) {cond : Formula}
    (hcond : ∀ lookup, cond.evalTruth lookup = .ok false) (body : Node) (argument : Value)
    (databaseId : Option String) :
    s.bound (.composite [n, .conditional cond body]) registry aliases argument databaseId =
      s.boundAnew n registry aliases argument databaseId := by
  have hdynamic : (Node.composite [n, .conditional cond body]).isDynamic = true := by
    simp [Node.isDynamic, Node.anyDynamic]
  obtain ⟨sql, hsql⟩ := Node.exists_text_of_render hn
  have hrender : ∀ f, (Node.composite [n, .conditional cond body]).render f = n.render f := by
    intro f
    have hconditional : (Node.conditional cond body).render (f.append sql) = .ok false (f.append sql) := by
      rw [Node.render]
      exact bind_eq_ok.2 ⟨false, f.append sql, Rendering.calculate_eq_ok.2 ⟨hcond _, rfl⟩, rfl⟩
    have hrest : Node.renderAll [.conditional cond body] (f.append sql) = .ok () (f.append sql) := by
      rw [Node.renderAll]
      exact bind_eq_ok.2 ⟨(), _, discard_eq_ok.2 ⟨false, hconditional⟩, by rw [Node.renderAll]; rfl⟩
    rw [hsql f, Node.render]
    refine bind_eq_ok.2 ⟨(), f.append sql, ?_, rfl⟩
    rw [Node.renderAll]
    exact bind_eq_ok.2 ⟨(), f.append sql, discard_eq_ok.2 ⟨true, hsql f⟩, hrest⟩
  rw [bound, Source.ofTemplate, hdynamic, if_pos rfl, boundAnew]
  show bindTo { s with source := .dynamic (.composite [n, .conditional cond body]) } argument databaseId
    registry aliases = _
  rw [bindTo, bindTo]
  dsimp only
  rw [Node.renderFor, hrender, Node.renderFor]

/-! ### Binding what was made once and what was made anew -/

theorem parameter_eq_of_not_readsContext (hs : s.parameterType = none)
    (hmap : registry.isDirect .map = false) (hany : registry.isDirect .any = false)
    {entries : List (String × Value)} {databaseId : Option String} {body : String} {p₁ p₂ : Parameter}
    (h₁ : (s.resolverOnce registry aliases).parameter body = .ok p₁)
    (h₂ : (s.resolverAnew registry aliases (.map entries) databaseId).parameter body = .ok p₂)
    (hcontext : ¬ p₁.ReadsContext) : p₁ = p₂ := by
  refine Resolver.parameter_congr (by rfl) (by rfl) h₁ h₂ fun sqlType => ?_
  have honce : (s.resolverOnce registry aliases).argumentType = .any := by rw [resolverOnce, hs]; rfl
  have hanew : (s.resolverAnew registry aliases (.map entries) databaseId).argumentType = .map := by
    rw [resolverAnew, hs]
    rfl
  rw [Resolver.inferType_of_absent (by rw [honce]; exact hany) (.inr honce) fun _ _ _ _ _ => rfl,
    Resolver.inferType_of_absent (by rw [hanew]; exact hmap) (.inl hanew) fun _ _ _ hpath hkeys =>
      Parameter.find?_of_not_readsContext hcontext hpath hkeys _ _]

theorem valueOf_eq_of_not_readsContext {p : Parameter} (hcontext : ¬ p.ReadsContext)
    {b₁ b₂ : BoundStatement} (hb₁ : b₁.bindings = []) {argument : Value} {databaseId : Option String}
    (hb₂ : b₂.bindings = (Frame.start argument databaseId).bindings) (registry : Registry)
    (argument' : Value) :
    Binder.valueOf registry b₁ argument' p = Binder.valueOf registry b₂ argument' p := by
  refine Binder.valueOf_congr (fun path key rest hpath hkeys name hname => ?_) registry argument'
  have hcontext : ¬ IsContextName name := by
    rcases hname with rfl | rfl
    · unfold IsContextName
      decide
    · exact fun hname => hcontext ⟨path, name, rest, hpath, hkeys, hname⟩
  rw [hb₁, hb₂, find?_start_bindings hcontext]
  rfl

theorem bind_eq_of_not_readsContext (hn : n.isDynamic = false) (hs : s.parameterType = none)
    (hmap : registry.isDirect .map = false) (hany : registry.isDirect .any = false)
    {entries : List (String × Value)} {databaseId : Option String} {b₁ b₂ : BoundStatement}
    (h₁ : s.bound n registry aliases (.map entries) databaseId = .ok b₁)
    (h₂ : s.boundAnew n registry aliases (.map entries) databaseId = .ok b₂)
    (hcontext : ∀ p ∈ b₁.parameters, p.mode.isInput = true → ¬ p.ReadsContext) :
    Binder.bind b₁ (.map entries) = Binder.bind b₂ (.map entries) := by
  obtain ⟨sql, hsql⟩ := exists_sql_of_bound hn s registry aliases
  obtain ⟨honce, hanew⟩ := hsql (.map entries) databaseId
  rw [honce, mapError_eq_ok] at h₁
  rw [hanew, except_map_eq_ok] at h₂
  obtain ⟨b, hb, rfl⟩ := h₂
  rw [mapError_eq_ok] at hb
  have hbindings : b₁.bindings = [] := by
    obtain ⟨parts, -, rfl⟩ := Resolver.resolve_eq_ok.1 h₁
    rfl
  have halike : List.Forall₂ (Binder.BoundAlike b₁
      (b.withBindings (Frame.start (.map entries) databaseId).bindings) (.map entries))
      b₁.parameters b.parameters := by
    refine ((List.forall₂_and_left ..).2 ⟨hcontext, Resolver.parameters_of_resolve h₁ hb⟩).imp ?_
    rintro p₁ p₂ ⟨hp, body, hp₁, hp₂⟩
    refine ⟨?_, fun hinput => ⟨?_, ?_⟩⟩
    · have huntyped : ((s.resolverOnce registry aliases).parameter body).map Parameter.untyped =
          ((s.resolverAnew registry aliases (.map entries) databaseId).parameter body).map
            Parameter.untyped := Resolver.parameter_untyped (by rfl) (by rfl) body
      rw [hp₁, hp₂] at huntyped
      exact Except.ok.inj huntyped
    · exact parameter_eq_of_not_readsContext hs hmap hany hp₁ hp₂ (hp hinput)
    · exact fun registry => valueOf_eq_of_not_readsContext (hp hinput) hbindings rfl registry _
  have hvalid : (b.withBindings (Frame.start (.map entries) databaseId).bindings).validate = .ok () := by
    show b.validate = .ok ()
    exact Resolver.validate_of_resolve hb
  rw [Binder.bind, Binder.bind, Resolver.validate_of_resolve h₁, hvalid]
  exact Binder.bindFrom_congr halike 1

end MappedStatement

end DynamicSql
