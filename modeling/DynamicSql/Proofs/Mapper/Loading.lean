import DynamicSql.Mapper.Session
import DynamicSql.Proofs.Parameter.Refused
import DynamicSql.Proofs.Table
import DynamicSql.Proofs.Template.Kept
import DynamicSql.Proofs.Template.Substituted

/-!
# Errors of mappers at call time

What is written in the placeholders of a statement is looked at when the statement is resolved: while it is
loaded if its template is not dynamic (`Source.resolve_of_ofTemplate`), and otherwise when it is called. So a
call of a statement of a loaded mapper fails for what is written in two cases only
(`Configuration.Loaded.prepare_isConfiguration_iff`): the text of a dynamic template has a placeholder that
cannot be resolved, or an output parameter has no SQL type.
-/

namespace DynamicSql

open Step

/-! ### Loading -/

theorem Source.resolve_of_ofTemplate {id : String} {template : Node} {type : Option DataType}
    {registry : Registry} {aliases : Aliases} {b : BoundStatement}
    (h : ofTemplate id template type registry aliases = .ok (.fixed b)) :
    ∃ rendered, template.renderFor .null none = .ok rendered ∧
      Resolver.resolve ⟨registry, aliases, type.getD .any, []⟩ rendered.sql = .ok b := by
  rw [ofTemplate] at h
  split at h
  · cases h
  · obtain ⟨rendered, hrender, h⟩ := except_bind_eq_ok.1 h
    obtain ⟨statement, hresolve, h⟩ := except_bind_eq_ok.1 h
    cases h
    exact ⟨rendered, mapError_eq_ok.1 hrender, mapError_eq_ok.1 hresolve⟩

namespace Configuration

/-- A configuration that comes of the settings by loading documents that are accepted. -/
inductive Loaded (settings : Settings) : Configuration → Prop
  | new : Loaded settings (.new settings)
  | mapper {c c' : Configuration} {d : Document} {count : Nat} : Loaded settings c →
      addMapper d c = .ok count c' → Loaded settings c'

/-- What loading leaves as it was, and what it knows of each statement: the statement has a template. -/
structure Consistent (settings : Settings) (c : Configuration) : Prop where
  settings : c.settings = settings
  registry : c.registry = .defaults
  aliases : c.aliases = .empty
  interceptors : c.interceptors = []
  sources : ∀ s ∈ c.statements.values, ∃ template,
    Source.ofTemplate s.id template s.parameterType .defaults .empty = .ok s.source

variable {settings : Settings} {c : Configuration}

theorem consistent_new (settings : Settings) : (new settings).Consistent settings :=
  ⟨rfl, rfl, rfl, rfl, List.forall_mem_nil _⟩

theorem exists_template_of_statementOf {library : Library} {id : String} {d : Definition}
    {s : MappedStatement} (h : c.statementOf library id d = .ok s) :
    ∃ template, Source.ofTemplate s.id template s.parameterType c.registry c.aliases = .ok s.source := by
  obtain ⟨type, -, h⟩ := except_bind_eq_ok.1 h
  obtain ⟨template, -, h⟩ := except_bind_eq_ok.1 h
  obtain ⟨source, hsource, h⟩ := except_bind_eq_ok.1 h
  cases h
  exact ⟨template, hsource⟩

theorem id_of_statementOf {library : Library} {id : String} {d : Definition} {s : MappedStatement}
    (h : c.statementOf library id d = .ok s) : s.id = id := by
  obtain ⟨type, -, h⟩ := except_bind_eq_ok.1 h
  obtain ⟨template, -, h⟩ := except_bind_eq_ok.1 h
  obtain ⟨source, -, h⟩ := except_bind_eq_ok.1 h
  cases h
  rfl

section Preserves

variable {P : Configuration → Prop}
  (hstatement : ∀ ⦃c namespaceId library d s⦄, P c →
    c.statementOf library (qualified namespaceId d.id) d = .ok s →
    P { c with statements := c.statements.insert (qualified namespaceId d.id) s })

include hstatement

theorem preserves_addStatement (namespaceId : String) (library : Library) (d : Definition) :
    Preserves P (addStatement namespaceId library d) := by
  intro c hc
  rw [addStatement]
  cases hs : c.statementOf library (qualified namespaceId d.id) d with
  | error e => split_ifs <;> exact hc
  | ok s =>
    split_ifs
    · exact hc
    · exact hc
    · exact hstatement hc hs

theorem preserves_addStatements (namespaceId : String) (library : Library) (ds : List Definition) :
    Preserves P (addStatements namespaceId library ds) := by
  induction ds with
  | nil => exact .pure 0
  | cons d ds ih =>
    refine .bind (preserves_addStatement hstatement namespaceId library d) fun added => ?_
    exact .bind ih fun count => .pure _

/-- What putting in a fragment or a statement keeps is kept where a document is added, whether it is loaded to its
end or not. -/
theorem preserves_addMapper (hfragment : ∀ ⦃c⦄ id body, P c → P (c.withFragment id body)) (d : Document) :
    Preserves P (addMapper d) := by
  refine .bind (fun c hc => List.foldlRecOn d.fragments _ hc fun _ hc _ _ => hfragment _ _ hc) fun _ => ?_
  exact .bind (fun c hc => hc) fun c => preserves_addStatements hstatement d.namespaceId _ d.statements

end Preserves

theorem Consistent.insert {library : Library} {namespaceId : String} {d : Definition} {s : MappedStatement}
    (hc : c.Consistent settings) (hs : c.statementOf library (qualified namespaceId d.id) d = .ok s) :
    Consistent settings { c with statements := c.statements.insert (qualified namespaceId d.id) s } := by
  obtain ⟨template, htemplate⟩ := exists_template_of_statementOf hs
  rw [hc.registry, hc.aliases] at htemplate
  refine { hc with sources := fun s' hs' => ?_ }
  rcases Table.mem_values_insert hs' with rfl | hs'
  · exact ⟨template, htemplate⟩
  · exact hc.sources s' hs'

theorem Loaded.consistent (h : Loaded settings c) : c.Consistent settings := by
  induction h with
  | new => exact consistent_new settings
  | @mapper c c' d count _ hadd ih =>
    have hkept : Preserves (Consistent settings) (addMapper d) :=
      preserves_addMapper (fun _ _ _ _ _ hc hs => hc.insert hs) (fun _ _ _ hc => { hc with }) d
    have hc' := hkept.final ih
    rwa [hadd] at hc'

theorem mem_values_of_statement {id : String} {s : MappedStatement} (h : c.statement id = .ok s) :
    s ∈ c.statements.values := by
  rw [statement] at h
  split at h
  · next s' hfind =>
    cases h
    exact Table.mem_values_of_find? hfind
  · split at h
    · cases h
    · cases h
    · split at h
      · next s' hfind =>
        cases h
        exact Table.mem_values_of_find? hfind
      · cases h

end Configuration

/-! ### Calling -/

open BindError (IsConfiguration)

theorem kind_template_of_fails {n : Node} {e : TemplateError} (h : n.Fails e) (id : String) :
    (MapperError.template id e).kind ≠ .configuration := by
  rw [MapperError.kind, h.not_isConfiguration]
  split <;> exact ErrorKind.noConfusion

theorem kind_binding_iff (id : String) (e : BindError) :
    (MapperError.binding id e).kind = .configuration ↔ IsConfiguration e := by
  rw [MapperError.kind, IsConfiguration]
  split
  · next h => exact ⟨fun _ => h, fun _ => rfl⟩
  · next h => exact ⟨ErrorKind.noConfusion, fun he => absurd he h⟩

namespace MappedStatement

variable {s : MappedStatement} {argument : Value} {databaseId : Option String} {registry : Registry}
  {aliases : Aliases}

/-- What the placeholders of a statement are resolved with if its template is dynamic. -/
def resolverFor (s : MappedStatement) (registry : Registry) (aliases : Aliases) (argument : Value)
    (bindings : Table String Value) : Resolver :=
  ⟨registry, aliases, s.parameterType.getD argument.dataType, bindings⟩

/-- The template of the statement is dynamic, and the text that it is rendered to has a placeholder that
cannot be resolved. -/
def IsUnresolved (s : MappedStatement) (registry : Registry) (aliases : Aliases) (argument : Value)
    (databaseId : Option String) : Prop :=
  ∃ template rendered body cause, s.source = .dynamic template ∧
    template.renderFor argument databaseId = .ok rendered ∧ body ∈ placeholdersIn rendered.sql ∧
    (s.resolverFor registry aliases argument rendered.bindings).parameter (String.ofList body) = .error cause

theorem bindTo_of_resolve {template : Node} {rendered : Rendered} {b : BoundStatement}
    (hsource : s.source = .dynamic template) (hrender : template.renderFor argument databaseId = .ok rendered)
    (hresolve : (s.resolverFor registry aliases argument rendered.bindings).resolve rendered.sql = .ok b) :
    s.bindTo argument databaseId registry aliases = .ok (b.withBindings rendered.bindings) := by
  rw [bindTo, hsource]
  refine except_bind_eq_ok.2 ⟨rendered, mapError_eq_ok.2 hrender, ?_⟩
  exact except_bind_eq_ok.2 ⟨b, mapError_eq_ok.2 hresolve, rfl⟩

theorem bindTo_isConfiguration_iff :
    (∃ e, s.bindTo argument databaseId registry aliases = .error e ∧ e.kind = .configuration) ↔
      s.IsUnresolved registry aliases argument databaseId := by
  rw [bindTo]
  constructor
  · rintro ⟨e, h, he⟩
    cases hsource : s.source with
    | fixed b =>
      rw [hsource] at h
      cases h
    | dynamic template =>
      rw [hsource] at h
      rcases except_bind_eq_error.1 h with hrender | ⟨rendered, hrender, hresolve⟩
      · obtain ⟨cause, hcause, rfl⟩ := mapError_eq_error.1 hrender
        exact absurd he (kind_template_of_fails (Node.fails_of_renderFor hcause) s.id)
      · rcases except_bind_eq_error.1 hresolve with hrefused | ⟨b, -, hlast⟩
        · obtain ⟨cause, hcause, rfl⟩ := mapError_eq_error.1 hrefused
          obtain ⟨body, hbody, hbad⟩ := Resolver.exists_resolve_error_iff.1 ⟨cause, hcause⟩
          obtain ⟨cause', hcause'⟩ := hbad
          exact ⟨template, rendered, body, cause', hsource, mapError_eq_ok.1 hrender, hbody, hcause'⟩
        · cases hlast
  · rintro ⟨template, rendered, body, cause, hsource, hrender, hbody, hcause⟩
    obtain ⟨cause', hresolve⟩ := Resolver.exists_resolve_error_iff.2 ⟨body, hbody, cause, hcause⟩
    refine ⟨.binding s.id cause', ?_, (kind_binding_iff _ _).2 (Resolver.failsWith_resolve _ _ _ hresolve)⟩
    rw [hsource]
    refine except_bind_eq_error.2 (.inr ⟨rendered, mapError_eq_ok.2 hrender, ?_⟩)
    exact except_bind_eq_error.2 (.inl (mapError_eq_error.2 ⟨cause', hresolve, rfl⟩))

theorem validate_of_bindTo {template : Node} {registry' : Registry} {aliases' : Aliases}
    (hsource : Source.ofTemplate s.id template s.parameterType registry' aliases' = .ok s.source)
    {b : BoundStatement} (h : s.bindTo argument databaseId registry aliases = .ok b) :
    b.validate = .ok () := by
  rw [bindTo] at h
  cases hs : s.source with
  | fixed statement =>
    rw [hs] at h hsource
    cases h
    obtain ⟨rendered, -, hresolve⟩ := Source.resolve_of_ofTemplate hsource
    exact Resolver.validate_of_resolve hresolve
  | dynamic template =>
    rw [hs] at h
    obtain ⟨rendered, -, h⟩ := except_bind_eq_ok.1 h
    obtain ⟨statement, hresolve, h⟩ := except_bind_eq_ok.1 h
    cases h
    have hvalid : statement.validate = .ok () :=
      Resolver.validate_of_resolve (mapError_eq_ok.1 hresolve)
    exact hvalid

end MappedStatement

namespace Configuration

variable {c : Configuration} {id : String} {s : MappedStatement} {argument : Value} {session : Session}

theorem render_eq_bindTo (hinterceptors : c.interceptors = [])
    (hvalid : ∀ b, s.bindTo argument c.settings.databaseId c.registry c.aliases = .ok b →
      b.validate = .ok ()) :
    c.render s argument = s.bindTo argument c.settings.databaseId c.registry c.aliases := by
  rw [render, hinterceptors]
  cases hb : s.bindTo argument c.settings.databaseId c.registry c.aliases with
  | error e => rfl
  | ok b =>
    have hvalid := hvalid b hb
    show (b.validate.mapError (MapperError.binding s.id) >>= fun _ => Except.ok b) = Except.ok b
    rw [hvalid]
    rfl

theorem prepare_eq (hinterceptors : c.interceptors = []) (hs : c.statement id = .ok s) :
    c.prepare id argument session =
      match c.render s argument with
      | .error e => .error e session
      | .ok b => (write s b argument >>= fun _ => pure b) session := by
  rw [prepare, hs]
  show (prepare.liftExcept (c.render s argument) >>= fun b => c.observe s b argument >>= fun _ =>
    write s b argument >>= fun _ => pure b) session = _
  cases c.render s argument with
  | error e => rfl
  | ok b =>
    have hobserve : c.observe s b argument session = .ok () session := by
      rw [observe, hinterceptors]
      rfl
    show (c.observe s b argument >>= fun _ => write s b argument >>= fun _ => pure b) session = _
    rw [bind_of_ok hobserve]

theorem write_isConfiguration_iff {b : BoundStatement} :
    (∃ e session', (write s b argument >>= fun _ => pure b) session = .error e session' ∧
      e.kind = .configuration) ↔
      ∃ e binding, Binder.bind b argument session.binding = .error e binding ∧ IsConfiguration e := by
  cases hbind : Binder.bind b argument session.binding with
  | ok u binding =>
    have hwrite : write s b argument session = .ok () { session with binding } := by rw [write, hbind]
    rw [bind_of_ok hwrite]
    constructor <;> (rintro ⟨_, _, h, -⟩; cases h)
  | error e binding =>
    have hwrite : write s b argument session = .error (.binding s.id e) { session with binding } := by
      rw [write, hbind]
    rw [bind_of_error hwrite]
    constructor
    · rintro ⟨_, _, h, he⟩
      cases h
      exact ⟨e, binding, rfl, (kind_binding_iff _ _).1 he⟩
    · rintro ⟨_, _, h, he⟩
      cases h
      exact ⟨_, _, rfl, (kind_binding_iff _ _).2 he⟩

/-- Without interceptors a call of a valid statement fails for what is written just if a placeholder cannot be
resolved, or an output parameter has no SQL type. -/
theorem prepare_fails_iff (argument : Value) (session : Session) (hinterceptors : c.interceptors = [])
    (hs : c.statement id = .ok s)
    (hvalid : ∀ b, s.bindTo argument c.settings.databaseId c.registry c.aliases = .ok b →
      b.validate = .ok ()) :
    (∃ e session', c.prepare id argument session = .error e session' ∧ e.kind = .configuration) ↔
      s.IsUnresolved c.registry c.aliases argument c.settings.databaseId ∨
      ∃ b before p after binding,
        s.bindTo argument c.settings.databaseId c.registry c.aliases = .ok b ∧
        b.parameters = before ++ p :: after ∧
        Binder.bindFrom b (Binder.navigable argument) 1 before session.binding = .ok () binding ∧
        Binder.IsUndeclared p := by
  rw [prepare_eq hinterceptors hs, render_eq_bindTo hinterceptors hvalid,
    ← MappedStatement.bindTo_isConfiguration_iff]
  cases hb : s.bindTo argument c.settings.databaseId c.registry c.aliases with
  | error e =>
    constructor
    · rintro ⟨_, _, h, he⟩
      cases h
      exact .inl ⟨e, rfl, he⟩
    · rintro (⟨_, h, he⟩ | ⟨_, _, _, _, _, h, -⟩) <;> cases h
      exact ⟨e, session, rfl, he⟩
  | ok b =>
    dsimp only
    rw [write_isConfiguration_iff, Binder.bind_isConfiguration_iff (hvalid b hb)]
    constructor
    · rintro ⟨before, p, after, binding, h⟩
      exact .inr ⟨b, before, p, after, binding, rfl, h⟩
    · rintro (⟨_, h, -⟩ | ⟨_, before, p, after, binding, h, hp⟩) <;> cases h
      exact ⟨before, p, after, binding, hp⟩

/-- The errors in a mapper that a call without interceptors still comes upon, whatever its argument and the
handle that it writes to, are a placeholder in the text of a dynamic template, and an output parameter without
an SQL type. -/
theorem Loaded.prepare_isConfiguration_iff {settings : Settings} (hc : Loaded settings c)
    (hs : c.statement id = .ok s) (argument : Value) (session : Session) :
    (∃ e session', c.prepare id argument session = .error e session' ∧ e.kind = .configuration) ↔
      s.IsUnresolved .defaults .empty argument settings.databaseId ∨
      ∃ b before p after binding, s.bindTo argument settings.databaseId .defaults .empty = .ok b ∧
        b.parameters = before ++ p :: after ∧
        Binder.bindFrom b (Binder.navigable argument) 1 before session.binding = .ok () binding ∧
        Binder.IsUndeclared p := by
  obtain ⟨hsettings, hregistry, haliases, hinterceptors, hsources⟩ := hc.consistent
  obtain ⟨template, htemplate⟩ := hsources s (mem_values_of_statement hs)
  have hiff := prepare_fails_iff argument session hinterceptors hs fun b hb =>
    MappedStatement.validate_of_bindTo htemplate hb
  rw [hsettings, hregistry, haliases] at hiff
  exact hiff

end Configuration

/-! ### Statements whose placeholders are not looked at -/

namespace Configuration

/-- A statement of the text inside a clause that writes and drops nothing. -/
def wrapped (text : String) : Definition := ⟨"q", .select, none, none, [.element "trim" [] [.text text]]⟩

def wrappedTemplate (text : String) : Node := .composite [.clause ⟨none, none, [], []⟩ (.composite [.text text])]

theorem build_wrapped {text : String} (htext : substitute [] text = text) :
    Library.build ⟨[], []⟩ (wrapped text).body = .ok (wrappedTemplate text) := by
  have hinner : ∀ library expand includes, Element.buildBody library expand ⟨[], includes⟩ [.text text] =
      .ok (.composite [.text text]) := by
    intro library expand includes
    rw [Element.buildBody, Element.buildAll, Element.buildElement.eq_def, Element.buildAll]
    dsimp only
    rw [htext]
    rfl
  rw [wrapped, Library.build, Element.buildWithin, Element.buildBody, Element.buildAll,
    Element.buildElement.eq_def]
  dsimp only
  rw [hinner, Element.buildAll]
  rfl

/-- The statement that `wrapped` becomes. -/
def wrappedStatement (text : String) : MappedStatement :=
  ⟨"bad.q", .select, none, none, .dynamic (wrappedTemplate text)⟩

/-- The configuration with this statement alone. -/
def withWrapped (text : String) : Configuration :=
  { new .default with statements := [("bad.q", wrappedStatement text)] }

theorem addMapper_single {namespaceId : String} {d : Definition} {s : MappedStatement}
    (hdatabase : d.databaseId = none) (hnew : c.statements.find? (qualified namespaceId d.id) = none)
    (hs : c.statementOf c.library (qualified namespaceId d.id) d = .ok s) :
    addMapper ⟨namespaceId, [], [d]⟩ c =
      .ok 1 { c with statements := c.statements.insert (qualified namespaceId d.id) s } := by
  have hadd : addStatement namespaceId c.library d c =
      .ok true { c with statements := c.statements.insert (qualified namespaceId d.id) s } := by
    rw [addStatement, hdatabase, hs, isForDatabase, canReplace, hnew]
    rfl
  show (addStatement namespaceId c.library d >>= fun added =>
    (pure 0 : Loading Nat) >>= fun count => pure (if added then count + 1 else count)) c = _
  rw [bind_of_ok hadd]
  rfl

theorem addMapper_wrapped {text : String} (htext : substitute [] text = text) :
    addMapper ⟨"bad", [], [wrapped text]⟩ (new .default) = .ok 1 (withWrapped text) := by
  refine addMapper_single (s := wrappedStatement text) rfl rfl ?_
  show (new .default).statementOf ⟨[], []⟩ _ _ = _
  rw [statementOf, build_wrapped htext]
  rfl

/-- The placeholder of an output parameter without an SQL type. -/
def untypedOutput : String := "#\x7bid,mode=OUT\x7d"

/-- The placeholder of a parameter with an attribute that there is not. -/
def misspelt : String := "#\x7bid,colour=red\x7d"

theorem forall_mem_of_all {s : String} (h : s.toList.all (fun c => c != '\x7d' && c != '\\') = true) :
    ∀ c ∈ s.toList, c ≠ '\x7d' ∧ c ≠ '\\' := by
  intro c hc
  simpa using List.all_eq_true.1 h c hc

theorem unopened_of_all {s : String} (h : s.toList.all (fun c => c != '$' && c != '\\') = true) :
    ∀ c ∈ s.toList, c ≠ '$' ∧ c ≠ '\\' := by
  intro c hc
  simpa using List.all_eq_true.1 h c hc

theorem prepare_untypedOutput :
    Loaded .default (withWrapped untypedOutput) ∧
      (withWrapped untypedOutput).statement "bad.q" = .ok (wrappedStatement untypedOutput) ∧
      ∃ e session, (withWrapped untypedOutput).prepare "bad.q" .null (withWrapped untypedOutput).session =
        .error e session ∧ e.kind = .configuration := by
  have hload : Loaded .default (withWrapped untypedOutput) :=
    .mapper .new (addMapper_wrapped (substitute_of_unopened (unopened_of_all (by decide)) []))
  have hbody : placeholdersIn untypedOutput = ["id,mode=OUT".toList] :=
    placeholdersIn_token (forall_mem_of_all (by decide)) rfl
  have hparameter : ∀ r : Resolver, ∃ p, r.parameter "id,mode=OUT" = .ok p ∧ Binder.IsUndeclared p :=
    fun _ => ⟨_, rfl, rfl, rfl⟩
  let r : Resolver := ⟨.defaults, .empty, .any, (Frame.start .null none).bindings⟩
  obtain ⟨p, hp, hundeclared⟩ := hparameter r
  obtain ⟨b, hb⟩ : ∃ b, r.resolve untypedOutput = .ok b :=
    Resolver.exists_resolve_iff.2 fun body h => by
      rw [hbody] at h
      obtain rfl := List.mem_singleton.1 h
      rw [String.ofList_toList]
      exact ⟨p, hp⟩
  have hparameters : b.parameters = [p] := by
    have hall := Resolver.forall₂_placeholdersIn hb
    rw [hbody] at hall
    obtain ⟨q, qs, hq, hqs, hparameters⟩ := List.forall₂_cons_left_iff.1 hall
    rw [hparameters, List.forall₂_nil_left_iff.1 hqs, Except.ok.inj (hq.symm.trans hp)]
  have hbind : (wrappedStatement untypedOutput).bindTo .null none .defaults .empty =
      .ok (b.withBindings (Frame.start .null none).bindings) := by
    have hrender : (wrappedTemplate untypedOutput).renderFor .null none =
        .ok ⟨untypedOutput, (Frame.start .null none).bindings⟩ := rfl
    exact MappedStatement.bindTo_of_resolve rfl hrender hb
  have hs : (withWrapped untypedOutput).statement "bad.q" = .ok (wrappedStatement untypedOutput) := rfl
  refine ⟨hload, hs, (Loaded.prepare_isConfiguration_iff hload hs .null _).2 (.inr ?_)⟩
  exact ⟨_, [], p, [], _, hbind, hparameters, rfl, hundeclared⟩

/-- The mapper is loaded although its placeholder cannot be resolved, and calling its statement fails. -/
theorem prepare_misspelt :
    ∃ c, addMapper ⟨"bad", [], [wrapped misspelt]⟩ (new .default) = .ok 1 c ∧
      ∃ e session, c.prepare "bad.q" (.map [("id", .int 1)]) c.session = .error e session ∧
        e.kind = .configuration := by
  have htext : substitute [] misspelt = misspelt := substitute_of_unopened (unopened_of_all (by decide)) []
  have hbody : placeholdersIn misspelt = ["id,colour=red".toList] :=
    placeholdersIn_token (forall_mem_of_all (by decide)) rfl
  have hparameter : ∀ r : Resolver,
      r.parameter "id,colour=red" = .error (.unknownAttribute "colour" "id,colour=red") := fun _ => rfl
  have hunresolved : ∀ registry aliases, (wrappedStatement misspelt).IsUnresolved registry aliases
      (.map [("id", .int 1)]) none := by
    intro registry aliases
    have hrender : (wrappedTemplate misspelt).renderFor (.map [("id", .int 1)]) none =
        .ok ⟨misspelt, (Frame.start (.map [("id", .int 1)]) none).bindings⟩ := rfl
    refine ⟨_, _, "id,colour=red".toList, .unknownAttribute "colour" "id,colour=red", rfl, hrender, ?_, ?_⟩
    · rw [hbody]
      exact .head _
    · rw [String.ofList_toList]
      exact hparameter _
  have hsource : Source.ofTemplate (wrappedStatement misspelt).id (wrappedTemplate misspelt)
      (wrappedStatement misspelt).parameterType .defaults .empty = .ok (wrappedStatement misspelt).source := rfl
  have hs : (withWrapped misspelt).statement "bad.q" = .ok (wrappedStatement misspelt) := rfl
  have hadd := addMapper_wrapped htext
  refine ⟨_, hadd, ?_⟩
  have hinterceptors : (withWrapped misspelt).interceptors = [] := rfl
  have hiff := prepare_fails_iff (.map [("id", .int 1)]) (withWrapped misspelt).session hinterceptors hs
    fun b hb => MappedStatement.validate_of_bindTo hsource hb
  exact hiff.2 (.inl (hunresolved _ _))

end Configuration

end DynamicSql
