import DynamicSql.Proofs.Expr.Failure
import DynamicSql.Proofs.Mapper.Loading
import DynamicSql.Proofs.Template.Course

/-!
# The kinds of errors of rendering

When the template of a statement cannot be rendered, preparing the statement fails with the first evaluation that
has an error (`Configuration.prepare_of_render_error`). The kind of the error tells what the formula was evaluated
for: an error of a collection is one of binding, every other one is one of evaluation. So a collection that cannot
be gone through is told from other failures, except from a collection whose expression fails itself
(`Configuration.prepare_subtracted`).
-/

namespace DynamicSql

open Step

/-- The kind of the error with which a statement fails if an evaluation does. -/
def Role.kind : Role → ErrorKind
  | test | value => .evaluation
  | collection => .binding

theorem Role.kind_template (role : Role) (id source : String) (cause : ExprError) :
    (MapperError.template id (role.fault source cause)).kind = role.kind := by
  cases role <;> rfl

namespace Evaluation

variable {a : Evaluation} {cause : ExprError}

theorem isIteration_iff (h : a.cause? = some cause) :
    cause.isIteration = true ↔ a.role = .collection ∧ ∃ v, a.formula.eval a.frame.lookup = .ok v := by
  obtain ⟨role, formula, f⟩ := a
  cases role with
  | collection =>
    have hitems : formula.evalItems f.lookup = .error cause := error?_eq_some.1 h
    rw [Formula.isIteration_iff hitems]
    exact ⟨fun hv => ⟨rfl, hv⟩, fun hv => hv.2⟩
  | test | value =>
    have heval : formula.eval f.lookup = .error cause := error?_eq_some.1 h
    have hevaluation := formula.failsWith_eval f cause heval
    exact ⟨fun hiteration => (Bool.false_ne_true (hevaluation.symm.trans hiteration)).elim,
      fun hrole => Role.noConfusion hrole.1⟩

end Evaluation

/-- The first evaluation of a rendering that fails gives the error. -/
theorem Node.exists_evaluation_of_renderFor {n : Node} {argument : Value} {databaseId : Option String}
    {e : TemplateError} (h : n.renderFor argument databaseId = .error e) :
    ∃ before a after cause, n.evaluations (.start argument databaseId) = before ++ a :: after ∧
      (∀ b ∈ before, b.cause? = none) ∧ a.cause? = some cause ∧ e = a.role.fault a.formula.source cause := by
  have hfault : fault? (n.render (.start argument databaseId)) = some e := by
    rw [renderFor] at h
    split at h
    · cases h
    · next hrender =>
      cases h
      rw [hrender]
      rfl
  rw [n.fault?_render, List.findSome?_eq_some_iff] at hfault
  obtain ⟨before, a, after, heq, ha, hbefore⟩ := hfault
  obtain ⟨cause, hcause, rfl⟩ := Option.map_eq_some_iff.1 ha
  exact ⟨before, a, after, cause, heq, fun b hb => Option.map_eq_none_iff.1 (hbefore b hb), hcause, rfl⟩

namespace Configuration

variable {c : Configuration} {id : String} {s : MappedStatement} {argument : Value}

theorem prepare_of_renderFor {n : Node} {e : TemplateError} (hs : c.statement id = .ok s)
    (hsource : s.source = .dynamic n) (h : n.renderFor argument c.settings.databaseId = .error e)
    (session : Session) :
    c.prepare id argument session = .error (.template s.id e) session := by
  have hbind : s.bindTo argument c.settings.databaseId c.registry c.aliases = .error (.template s.id e) := by
    rw [MappedStatement.bindTo, hsource]
    dsimp only
    rw [h]
    rfl
  have hrender : c.render s argument = .error (.template s.id e) := by
    rw [render, hbind]
    rfl
  rw [prepare, hs]
  show (prepare.liftExcept (c.render s argument) >>= fun b => c.observe s b argument >>= fun _ =>
    write s b argument >>= fun _ => pure b) session = _
  rw [hrender]
  rfl

/-- A statement whose template cannot be rendered fails with the first evaluation that has an error, and never
with an error of what is written in the mapper. A collection that cannot be gone through makes it an error of
binding. Every other cause makes it one of evaluation, unless it is that of a collection. -/
theorem prepare_of_render_error {n : Node} {t : TemplateError} (hs : c.statement id = .ok s)
    (hsource : s.source = .dynamic n) (h : n.renderFor argument c.settings.databaseId = .error t)
    (session : Session) :
    ∃ before a after cause e,
      n.evaluations (.start argument c.settings.databaseId) = before ++ a :: after ∧
      (∀ b ∈ before, b.cause? = none) ∧ a.cause? = some cause ∧
      c.prepare id argument session = .error e session ∧
      e = .template s.id (a.role.fault a.formula.source cause) ∧
      e.kind ≠ .configuration ∧
      (cause.isIteration = true ↔ a.role = .collection ∧ ∃ v, a.formula.eval a.frame.lookup = .ok v) ∧
      (cause.isIteration = true → e.kind = .binding) ∧
      (cause.isIteration = false → (e.kind = .evaluation ↔ a.role ≠ .collection)) := by
  obtain ⟨before, a, after, cause, heq, hbefore, hcause, rfl⟩ := Node.exists_evaluation_of_renderFor h
  have hkind := a.role.kind_template s.id a.formula.source cause
  refine ⟨before, a, after, cause, _, heq, hbefore, hcause, prepare_of_renderFor hs hsource h session, rfl, ?_,
    Evaluation.isIteration_iff hcause, fun hiteration => ?_, fun _ => ?_⟩
  · rw [hkind]
    cases a.role <;> exact ErrorKind.noConfusion
  · rw [hkind, ((Evaluation.isIteration_iff hcause).1 hiteration).1]
    rfl
  · rw [hkind]
    cases a.role with
    | collection => exact ⟨ErrorKind.noConfusion, fun hrole => absurd rfl hrole⟩
    | test | value => exact ⟨fun _ => Role.noConfusion, fun _ => rfl⟩

/-! ### A collection whose expression fails -/

/-- A statement with a loop over the collection. -/
def looping (collection : String) : Definition :=
  ⟨"q", .select, none, none, [.element "foreach" [("collection", collection), ("item", "id")] [.text "x"]]⟩

def loopingTemplate (collection : Formula) : Node :=
  .composite [.loop ⟨collection, some "id", none, "", "", ""⟩ (.composite [.text "x"])]

def loopingStatement (collection : Formula) : MappedStatement :=
  ⟨"loops.q", .select, none, none, .dynamic (loopingTemplate collection)⟩

/-- The configuration with this statement alone. -/
def withLoop (collection : Formula) : Configuration :=
  { new .default with statements := [("loops.q", loopingStatement collection)] }

theorem build_looping {collection : Formula} (hparse : Expr.parse collection.source = .ok collection.expr)
    (hplain : ∀ c ∈ collection.source.toList, c ≠ '$' ∧ c ≠ '\\') :
    Library.build ⟨[], []⟩ (looping collection.source).body = .ok (loopingTemplate collection) := by
  have hsource : substitute [] collection.source = collection.source := substitute_of_unopened hplain []
  have hitem : substitute [] "id" = "id" := substitute_of_unopened (unopened_of_all (by decide)) []
  have htext : substitute [] "x" = "x" := substitute_of_unopened (unopened_of_all (by decide)) []
  have hformula : Node.formula collection.source = .ok collection := by
    rw [Node.formula, Formula.parse, hparse]
    rfl
  have hinner : ∀ library expand includes, Element.buildBody library expand ⟨[], includes⟩ [.text "x"] =
      .ok (.composite [.text "x"]) := by
    intro library expand includes
    rw [Element.buildBody, Element.buildAll, Element.buildElement.eq_def, Element.buildAll]
    dsimp only
    rw [htext]
    rfl
  have helement : ∀ library expand, Element.buildElement library expand ⟨[], []⟩
      (.element "foreach" [("collection", collection.source), ("item", "id")] [.text "x"]) =
        .ok (.loop ⟨collection, some "id", none, "", "", ""⟩ (.composite [.text "x"])) := by
    intro library expand
    have hcollection : Element.requiredAttr ⟨[], []⟩
        (.element "foreach" [("collection", collection.source), ("item", "id")] [.text "x"]) "collection" =
          .ok collection.source := by
      show Except.ok (substitute [] collection.source) = _
      rw [hsource]
    have hname : Element.attrIn? ⟨[], []⟩
        (.element "foreach" [("collection", collection.source), ("item", "id")] [.text "x"]) "item" = some "id" := by
      show some (substitute [] "id") = _
      rw [hitem]
    rw [Element.buildElement.eq_def]
    refine except_bind_eq_ok.2 ⟨_, hcollection, except_bind_eq_ok.2 ⟨_, hinner library expand [], ?_⟩⟩
    rw [hname]
    exact except_bind_eq_ok.2 ⟨_, hformula, rfl⟩
  rw [looping, Library.build, Element.buildWithin, Element.buildBody, Element.buildAll, helement, Element.buildAll]
  rfl

theorem addMapper_looping (collection : Formula)
    (hparse : Expr.parse collection.source = .ok collection.expr)
    (hplain : ∀ c ∈ collection.source.toList, c ≠ '$' ∧ c ≠ '\\') :
    addMapper ⟨"loops", [], [looping collection.source]⟩ (new .default) = .ok 1 (withLoop collection) := by
  refine addMapper_single (s := loopingStatement collection) rfl rfl ?_
  show (new .default).statementOf ⟨[], []⟩ _ _ = _
  rw [statementOf, build_looping hparse hplain]
  rfl

theorem statement_withLoop (collection : Formula) :
    (withLoop collection).statement "loops.q" = .ok (loopingStatement collection) := rfl

/-- The argument's property, which can be a collection. -/
def ids : Formula := ⟨"ids", .name "ids"⟩

/-- A difference that has no value where the property is a list. -/
def subtracted : Formula := ⟨"ids-1", .binary .subtract (.name "ids") (.literal (.int 1))⟩

theorem prepare_ids :
    addMapper ⟨"loops", [], [looping ids.source]⟩ (new .default) = .ok 1 (withLoop ids) ∧
      ∃ e session, (withLoop ids).prepare "loops.q" (.map [("ids", .int 3)]) (withLoop ids).session =
        .error e session ∧ e.kind = .binding := by
  have hplain : ∀ c ∈ "ids".toList, c ≠ '$' ∧ c ≠ '\\' := unopened_of_all (by decide)
  refine ⟨addMapper_looping ids rfl hplain, ?_⟩
  have hrender : (loopingTemplate ids).renderFor (.map [("ids", .int 3)]) none =
      .error (.collection "ids" (.notIterable "ids" "long")) := rfl
  obtain ⟨-, a, -, cause, e, -, -, -, hprepare, he, -, -, hiteration, -⟩ :=
    prepare_of_render_error (statement_withLoop ids) rfl hrender (withLoop ids).session
  refine ⟨e, _, hprepare, hiteration ?_⟩
  have hfails := hprepare.symm.trans
    (prepare_of_renderFor (statement_withLoop ids) rfl hrender (withLoop ids).session)
  rw [he] at hfails
  have hfault : a.role.fault a.formula.source cause = .collection "ids" (.notIterable "ids" "long") :=
    (MapperError.template.inj (EStateM.Result.error.inj hfails).1).2
  cases hrole : a.role with
  | collection =>
    rw [hrole] at hfault
    rw [(TemplateError.collection.inj hfault).2]
    rfl
  | test | value =>
    rw [hrole] at hfault
    exact TemplateError.noConfusion hfault

/-- A difference that cannot be calculated in place of a collection: the mapper is loaded, and calling its statement
is an error of binding as well, although no value has been found that could be gone through or not. -/
theorem prepare_subtracted :
    addMapper ⟨"loops", [], [looping subtracted.source]⟩ (new .default) = .ok 1 (withLoop subtracted) ∧
      ∃ e session, (withLoop subtracted).prepare "loops.q" (.map [("ids", .list [.int 1])])
          (withLoop subtracted).session = .error e session ∧
        e = .template "loops.q" (.collection "ids-1" (.typeMismatch "-" "list" "long")) ∧
        e.kind = .binding ∧ e.kind ≠ .evaluation := by
  have hparse : Expr.parse "ids-1" = .ok (.binary .subtract (.name "ids") (.literal (.int 1))) := by rfl
  have hplain : ∀ c ∈ "ids-1".toList, c ≠ '$' ∧ c ≠ '\\' := unopened_of_all (by decide)
  refine ⟨addMapper_looping subtracted hparse hplain, ?_⟩
  have hrender : (loopingTemplate subtracted).renderFor (.map [("ids", .list [.int 1])]) none =
      .error (.collection "ids-1" (.typeMismatch "-" "list" "long")) := rfl
  have hs := statement_withLoop subtracted
  have hsource : (loopingStatement subtracted).source = .dynamic (loopingTemplate subtracted) := rfl
  have hprepare := prepare_of_renderFor hs hsource hrender (withLoop subtracted).session
  exact ⟨_, _, hprepare, rfl, rfl, ErrorKind.noConfusion⟩

end Configuration

end DynamicSql
