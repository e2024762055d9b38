import DynamicSql.Proofs.Template.Render

/-!
# What rendering keeps

A relation between the frame in which a step of rendering begins and the frame in which it ends is kept
by rendering if the steps keep it: writing a text, entering and leaving an iteration or the body of a
clause, and binding the variables of the template (`Frame.IsKept`). Then it is kept by the rendering of
every template, also where the rendering fails (`Node.relates_render`).
-/

namespace DynamicSql

open Step Rendering

/-! ### Parts of templates -/

namespace Node

/-- The template `m` is a part of a template: the template itself, or a part of a body, of a choice or of a
child. -/
inductive Occurs (m : Node) : Node → Prop
  | here : Occurs m m
  | conditional {test : Formula} {body : Node} : Occurs m body → Occurs m (.conditional test body)
  | when {whens : List (Formula × Node)} {otherwise : Option Node} {w : Formula × Node} : w ∈ whens →
      Occurs m w.2 → Occurs m (.choose whens otherwise)
  | otherwise {whens : List (Formula × Node)} {n : Node} : Occurs m n → Occurs m (.choose whens (some n))
  | loop {spec : Loop} {body : Node} : Occurs m body → Occurs m (.loop spec body)
  | clause {spec : Clause} {body : Node} : Occurs m body → Occurs m (.clause spec body)
  | composite {children : List Node} {n : Node} : n ∈ children → Occurs m n →
      Occurs m (.composite children)

/-- The name is that of a variable which the template binds somewhere. -/
def Binds (n : Node) (name : String) : Prop := ∃ value, Occurs (.bind name value) n

/-- An error of a formula which the template, apart from its parts, evaluates. -/
inductive Fault : Node → TemplateError → Prop
  | test {test : Formula} {body : Node} {names : Expr.Lookup} {cause : ExprError} :
      test.evalTruth names = .error cause → Fault (.conditional test body) (.evaluation test.source cause)
  | when {whens : List (Formula × Node)} {otherwise : Option Node} {w : Formula × Node}
      {names : Expr.Lookup} {cause : ExprError} : w ∈ whens → w.1.evalTruth names = .error cause →
      Fault (.choose whens otherwise) (.evaluation w.1.source cause)
  | items {spec : Loop} {body : Node} {names : Expr.Lookup} {cause : ExprError} :
      spec.collection.evalItems names = .error cause →
      Fault (.loop spec body) (.collection spec.collection.source cause)
  | value {name : String} {value : Formula} {names : Expr.Lookup} {cause : ExprError} :
      value.eval names = .error cause → Fault (.bind name value) (.evaluation value.source cause)

/-- An error of a formula which the template evaluates somewhere. -/
def Fails (n : Node) (e : TemplateError) : Prop := ∃ m, Occurs m n ∧ Fault m e

/-- The template binds only variables with names in `bound`, and its formulas fail only with errors that
have `E`. -/
structure Within (bound : String → Prop) (E : TemplateError → Prop) (n : Node) : Prop where
  binds : ∀ name, n.Binds name → bound name
  fails : ∀ e, n.Fails e → E e

theorem within_self (n : Node) : n.Within n.Binds n.Fails := ⟨fun _ => id, fun _ => id⟩

variable {bound : String → Prop} {E : TemplateError → Prop} {n m : Node}

theorem Within.of_occurs (hn : n.Within bound E) (hm : ∀ k, Occurs k m → Occurs k n) :
    m.Within bound E where
  binds name := fun ⟨value, hoccurs⟩ => hn.binds name ⟨value, hm _ hoccurs⟩
  fails e := fun ⟨k, hoccurs, hfault⟩ => hn.fails e ⟨k, hm k hoccurs, hfault⟩

end Node

/-! ### Relations that rendering keeps -/

namespace Frame

/-- A relation between frames that the steps of rendering keep, with the variables that may be bound. -/
structure IsKept (bound : String → Prop) (R : Frame → Frame → Prop) : Prop where
  refl : ∀ f, R f f
  trans : ∀ ⦃f g h⦄, R f g → R g h → R f h
  append : ∀ f s, R f (f.append s)
  bind : ∀ f name v, bound name → R f (f.bind name v)
  capture : ∀ {f g}, R { f with text := "" } g → R f { g with text := f.text }
  leave : ∀ {spec : Loop} {index item : Value} {f g}, R (spec.enter index item f) g → R f (Loop.leave f g)

theorem isKept_true (bound : String → Prop) : IsKept bound fun _ _ => True :=
  ⟨fun _ => trivial, fun _ _ _ _ _ => trivial, fun _ _ => trivial, fun _ _ _ _ => trivial, fun _ => trivial,
    fun _ => trivial⟩

end Frame

open DynamicSql.Frame

variable {bound : String → Prop} {R : Frame → Frame → Prop} {E : TemplateError → Prop}

theorem Rendering.relates_calculate {α : Type} (hR : IsKept bound R) {fault : ExprError → TemplateError}
    {calculation : Expr.Lookup → Except ExprError α}
    (hE : ∀ names cause, calculation names = .error cause → E (fault cause)) :
    Relates R E (calculate fault calculation) := by
  refine relates_of (fun f a g h => ?_) fun f e g h => ?_
  · obtain ⟨-, rfl⟩ := calculate_eq_ok.1 h
    exact hR.refl g
  · obtain ⟨cause, hcause, rfl, rfl⟩ := calculate_eq_error.1 h
    exact ⟨hR.refl g, hE g.lookup cause hcause⟩

theorem Rendering.relates_capture {α : Type} {step : Rendering α} (hR : IsKept bound R)
    (hstep : Relates R E step) : Relates R E (capture step) := by
  refine relates_of (fun f result g h => ?_) fun f e g h => ?_
  · obtain ⟨a, text⟩ := result
    obtain ⟨g', hresult, -, rfl⟩ := capture_eq_ok.1 h
    exact hR.capture (hstep.of_ok hresult)
  · cases hresult : step { f with text := "" } with
    | ok a g' =>
      rw [capture, hresult] at h
      cases h
    | error e' g' =>
      rw [capture_of_error hresult] at h
      cases h
      obtain ⟨hkept, hE⟩ := hstep.of_error hresult
      exact ⟨hR.capture hkept, hE⟩

theorem Loop.relates_bodies (hR : IsKept bound R) (spec : Loop) {body : Rendering Bool}
    (hbody : Relates R E body) (items : List (Value × Value)) : Relates R E (spec.bodies body items) := by
  intro f
  induction items generalizing f with
  | nil => exact ⟨hR.refl f, fun _ => nofun⟩
  | cons entry items ih =>
    cases hresult : body (spec.enter entry.1 entry.2 f) with
    | ok b inner =>
      obtain ⟨hkept, hE⟩ := ih (leave f inner)
      rw [bodies_of_ok hresult, final_map, fault?_map]
      exact ⟨hR.trans (hR.leave (hbody.of_ok hresult)) hkept, hE⟩
    | error e inner =>
      obtain ⟨hkept, hE⟩ := hbody.of_error hresult
      rw [bodies_of_error hresult]
      exact ⟨hR.leave hkept, fun _ h => Option.some.inj h ▸ hE⟩

namespace Node

theorem relates_renderFirst (hR : IsKept bound R) {whens : List (Formula × Node)}
    (hwhens : ∀ w ∈ whens, (∀ names cause, w.1.evalTruth names = .error cause →
      E (.evaluation w.1.source cause)) ∧ Relates R E w.2.render) : Relates R E (renderFirst whens) := by
  induction whens with
  | nil =>
    rw [renderFirst]
    exact .pure hR.refl false
  | cons w whens ih =>
    obtain ⟨⟨htest, hw⟩, hwhens⟩ := List.forall_mem_cons.1 hwhens
    rw [renderFirst]
    refine .bind hR.trans (relates_calculate hR htest) fun holds => ?_
    split
    · exact .bind hR.trans hw.discard fun _ => .pure hR.refl true
    · exact ih hwhens

theorem relates_renderAll (hR : IsKept bound R) {children : List Node}
    (hchildren : ∀ n ∈ children, Relates R E n.render) : Relates R E (renderAll children) := by
  induction children with
  | nil =>
    rw [renderAll]
    exact .pure hR.refl ()
  | cons n children ih =>
    obtain ⟨hn, hchildren⟩ := List.forall_mem_cons.1 hchildren
    rw [renderAll]
    exact .bind hR.trans hn.discard fun _ => ih hchildren

/-- Rendering a template keeps what its steps keep, whether it succeeds or fails, and fails only where one of
its formulas does. -/
theorem relates_render (hR : IsKept bound R) (n : Node) (hn : n.Within bound E) : Relates R E n.render := by
  induction n with
  | text s =>
    rw [render]
    exact .bind hR.trans (.modify fun f => hR.append f s) fun _ => .pure hR.refl true
  | conditional cond body ih =>
    have hbody : Relates R E body.render := ih (hn.of_occurs fun _ => .conditional)
    have htest : ∀ names cause, cond.evalTruth names = .error cause → E (.evaluation cond.source cause) :=
      fun _ _ h => hn.fails _ ⟨_, .here, .test h⟩
    rw [render]
    refine .bind hR.trans (relates_calculate hR htest) fun holds => ?_
    split
    · exact .bind hR.trans hbody.discard fun _ => .pure hR.refl true
    · exact .pure hR.refl false
  | choose whens otherwise ihwhens ihotherwise =>
    have hwhens : Relates R E (renderFirst whens) := relates_renderFirst hR fun w hw =>
      ⟨fun names cause h => hn.fails _ ⟨_, .here, .when hw h⟩,
        ihwhens w hw (hn.of_occurs fun _ => .when hw)⟩
    cases otherwise with
    | none =>
      rw [render]
      exact hwhens
    | some n =>
      have hotherwise : Relates R E n.render := ihotherwise n rfl (hn.of_occurs fun _ => .otherwise)
      rw [render]
      refine .bind hR.trans hwhens fun taken => ?_
      split
      · exact .pure hR.refl true
      · exact .bind hR.trans hotherwise.discard fun _ => .pure hR.refl true
  | loop spec body ih =>
    have hbody : Relates R E body.render := ih (hn.of_occurs fun _ => .loop)
    rw [render]
    refine .bind hR.trans (relates_calculate hR fun _ _ h => hn.fails _ ⟨_, .here, .items h⟩)
      fun items => ?_
    refine .bind hR.trans (spec.relates_bodies hR hbody items) fun texts => ?_
    split
    · exact .pure hR.refl true
    · exact .bind hR.trans (.modify fun f => hR.append f _) fun _ => .pure hR.refl true
  | clause spec body ih =>
    have hbody : Relates R E body.render := ih (hn.of_occurs fun _ => .clause)
    rw [render]
    refine .bind hR.trans (relates_capture hR hbody) fun result => ?_
    exact .bind hR.trans (.modify fun f => hR.append f _) fun _ => .pure hR.refl _
  | bind name value =>
    rw [render]
    refine .bind hR.trans (relates_calculate hR fun _ _ h => hn.fails _ ⟨_, .here, .value h⟩) fun v => ?_
    exact .bind hR.trans (.modify fun f => hR.bind f name v (hn.binds name ⟨value, .here⟩)) fun _ =>
      .pure hR.refl true
  | composite children ih =>
    rw [render]
    refine .bind hR.trans (relates_renderAll hR fun n hmem => ?_) fun _ => .pure hR.refl true
    exact ih n hmem (hn.of_occurs fun _ => .composite hmem)

theorem fails_of_renderFor {n : Node} {argument : Value} {databaseId : Option String} {e : TemplateError}
    (h : n.renderFor argument databaseId = .error e) : n.Fails e := by
  rw [renderFor] at h
  split at h
  · cases h
  · next hrender =>
    cases h
    exact ((relates_render (isKept_true n.Binds) n n.within_self).of_error hrender).2

theorem Fails.not_isConfiguration {n : Node} {e : TemplateError} (h : n.Fails e) :
    e.isConfiguration = false := by
  obtain ⟨m, -, hfault⟩ := h
  cases hfault <;> rfl

end Node

end DynamicSql
