import DynamicSql.Proofs.Template.Kept
import DynamicSql.Proofs.Template.Visits

/-!
# Iterations and evaluations of a rendering

The visits of a rendering tell which iterations its loops begin (`Node.passes`) and which formulas are
evaluated, each in which frame (`Node.evaluations`), also where the rendering fails. What holds of the steps of
a rendering, of one iteration given its body and of a loop given its iterations, holds of the rendering of every
template (`Node.course`). So a rendering fails just with the error of the first evaluation that has one
(`Node.fault?_render`).
-/

namespace DynamicSql

open Step

/-! ### Iterations -/

/-- An iteration of a loop: its index and item, and the frame in which it begins. -/
structure Pass where
  spec : Loop
  index : Value
  item : Value
  before : Frame

namespace Pass

/-- The number of the iteration. -/
def number (p : Pass) : Nat := p.before.nextNumber

/-- The frame in which the body is rendered. -/
def entered (p : Pass) : Frame := p.spec.enter p.index p.item p.before

end Pass

/-- The iterations of a loop, up to the first one whose body fails. -/
def Loop.passes (spec : Loop) (body : Rendering Bool) : List (Value × Value) → Frame → List Pass
  | [], _ => []
  | (index, item) :: rest, f =>
    ⟨spec, index, item, f⟩ ::
      match body (spec.enter index item f) with
      | .ok _ g => spec.passes body rest (leave f g)
      | .error .. => []

/-- The iterations that a visit begins if it is that of a loop. -/
def Visit.passes : Visit → List Pass
  | ⟨.loop spec body, f⟩ =>
    match spec.collection.evalItems f.lookup with
    | .ok items => spec.passes body.render items f
    | .error _ => []
  | _ => []

/-- The iterations of all loops of a rendering; those of a loop come before those of the loops inside of it. -/
def Node.passes (n : Node) (f : Frame) : List Pass := (n.visits f).flatMap Visit.passes

theorem Visit.passes_loop {spec : Loop} {f : Frame} {items : List (Value × Value)}
    (h : spec.collection.evalItems f.lookup = .ok items) (body : Node) :
    Visit.passes ⟨.loop spec body, f⟩ = spec.passes body.render items f := by
  rw [passes, h]

theorem Visit.passes_loop_of_error {spec : Loop} {f : Frame} {cause : ExprError}
    (h : spec.collection.evalItems f.lookup = .error cause) (body : Node) :
    Visit.passes ⟨.loop spec body, f⟩ = [] := by
  rw [passes, h]

/-! ### Evaluations -/

/-- What a formula is evaluated for: as a test, as the value of a variable, or for the items of a loop. -/
inductive Role where
  | test
  | value
  | collection
  deriving DecidableEq

/-- What an error of a formula means for the template. -/
def Role.fault : Role → String → ExprError → TemplateError
  | test | value => .evaluation
  | collection => .collection

/-- An evaluation of a formula in a frame. -/
structure Evaluation where
  role : Role
  formula : Formula
  frame : Frame

namespace Evaluation

/-- Why the evaluation fails, if it does. The items of a loop fail also where the formula has a value that is
null or cannot be gone through. -/
def cause? (a : Evaluation) : Option ExprError :=
  match a.role with
  | .test | .value => error? (a.formula.eval a.frame.lookup)
  | .collection => error? (a.formula.evalItems a.frame.lookup)

/-- The error with which the rendering fails if the evaluation does. -/
def fault? (a : Evaluation) : Option TemplateError := a.cause?.map (a.role.fault a.formula.source)

end Evaluation

/-- The evaluations of the tests of a choice, up to the first one that does not turn out false. -/
def Node.tests : List (Formula × Node) → Frame → List Evaluation
  | [], _ => []
  | (cond, _) :: rest, f =>
    ⟨.test, cond, f⟩ ::
      match cond.evalTruth f.lookup with
      | .ok false => tests rest f
      | _ => []

namespace Visit

/-- The evaluations that a visit makes before it comes to the parts of what it visits. -/
def evaluations : Visit → List Evaluation
  | ⟨.conditional cond _, f⟩ => [⟨.test, cond, f⟩]
  | ⟨.choose whens _, f⟩ => Node.tests whens f
  | ⟨.loop spec _, f⟩ => [⟨.collection, spec.collection, f⟩]
  | ⟨.bind _ value, f⟩ => [⟨.value, value, f⟩]
  | ⟨.text _, _⟩ | ⟨.clause .., _⟩ | ⟨.composite _, _⟩ => []

/-- The error with which the rendering fails if one of the evaluations of the visit does. -/
def fault? (v : Visit) : Option TemplateError := v.evaluations.findSome? Evaluation.fault?

end Visit

/-- The evaluations of a rendering, in order. -/
def Node.evaluations (n : Node) (f : Frame) : List Evaluation := (n.visits f).flatMap Visit.evaluations

theorem findSome?_evaluations (vs : List Visit) :
    (vs.flatMap Visit.evaluations).findSome? Evaluation.fault? = vs.findSome? Visit.fault? := by
  induction vs with
  | nil => rfl
  | cons v vs ih =>
    rw [List.flatMap_cons, List.findSome?_append, ih, List.findSome?_cons, Visit.fault?]
    cases v.evaluations.findSome? Evaluation.fault? <;> rfl

theorem Visit.fault?_eq {v : Visit} {a : Evaluation} (h : v.evaluations = [a]) : v.fault? = a.fault? := by
  rw [fault?, h, List.findSome?_cons]
  cases a.fault? <;> rfl

section

variable {cond value collection : Formula} {f : Frame} {cause : ExprError} {rest : List (Formula × Node)} {body : Node}

theorem Evaluation.fault?_test_of_error (h : cond.evalTruth f.lookup = .error cause) :
    Evaluation.fault? ⟨.test, cond, f⟩ = some (.evaluation cond.source cause) := by
  rw [fault?, cause?, except_map_eq_error.1 h]
  rfl

theorem Evaluation.fault?_test_of_ok {holds : Bool} (h : cond.evalTruth f.lookup = .ok holds) :
    Evaluation.fault? ⟨.test, cond, f⟩ = none := by
  obtain ⟨v, heval, -⟩ := except_map_eq_ok.1 h
  rw [fault?, cause?, heval]
  rfl

theorem Evaluation.fault?_value_of_error (h : value.eval f.lookup = .error cause) :
    Evaluation.fault? ⟨.value, value, f⟩ = some (.evaluation value.source cause) := by
  rw [fault?, cause?, h]
  rfl

theorem Evaluation.fault?_value_of_ok {v : Value} (h : value.eval f.lookup = .ok v) :
    Evaluation.fault? ⟨.value, value, f⟩ = none := by
  rw [fault?, cause?, h]
  rfl

theorem Evaluation.fault?_collection_of_error (h : collection.evalItems f.lookup = .error cause) :
    Evaluation.fault? ⟨.collection, collection, f⟩ = some (.collection collection.source cause) := by
  rw [fault?, cause?, h]
  rfl

theorem Evaluation.fault?_collection_of_ok {items : List (Value × Value)}
    (h : collection.evalItems f.lookup = .ok items) : Evaluation.fault? ⟨.collection, collection, f⟩ = none := by
  rw [fault?, cause?, h]
  rfl

theorem Node.tests_cons_false (h : cond.evalTruth f.lookup = .ok false) :
    tests ((cond, body) :: rest) f = ⟨.test, cond, f⟩ :: tests rest f := by
  rw [tests, h]

theorem Node.tests_cons_true (h : cond.evalTruth f.lookup = .ok true) :
    tests ((cond, body) :: rest) f = [⟨.test, cond, f⟩] := by
  rw [tests, h]

theorem Node.tests_cons_of_error (h : cond.evalTruth f.lookup = .error cause) :
    tests ((cond, body) :: rest) f = [⟨.test, cond, f⟩] := by
  rw [tests, h]

end

/-! ### Courses -/

/-- A relation between the frame in which a step of rendering begins, the iterations of one loop and the visits
that it makes, the error with which it fails, if it does, and the frame in which it ends, if the steps of
rendering keep it. The iterations are given apart as long as the visit of their loop is not among the visits. -/
structure IsCourse (bound : String → Prop)
    (Q : Frame → List Pass → List Visit → Option TemplateError → Frame → Prop) : Prop where
  refl : ∀ f, Q f [] [] none f
  trans : ∀ {f g h ps qs vs ws e}, Q f ps vs none g → Q g qs ws e h → Q f (ps ++ qs) (vs ++ ws) e h
  append : ∀ f s, Q f [] [] none (f.append s)
  bind : ∀ f name v, bound name → Q f [] [] none (f.bind name v)
  visit : ∀ {v : Visit}, v.passes = [] → Q v.frame [] [v] v.fault? v.frame
  capture : ∀ {f g vs e}, Q { f with text := "" } [] vs e g → Q f [] vs e { g with text := f.text }
  iteration : ∀ {p : Pass} {vs e g}, Q p.entered [] vs e g → Q p.before [p] vs e (Loop.leave p.before g)
  loop : ∀ {v : Visit} {vs e g}, v.fault? = none → Q v.frame v.passes vs e g → Q v.frame [] (v :: vs) e g

variable {bound : String → Prop} {Q : Frame → List Pass → List Visit → Option TemplateError → Frame → Prop}

theorem IsCourse.cons (hQ : IsCourse bound Q) {v : Visit} (hpasses : v.passes = []) (hfault : v.fault? = none)
    {vs : List Visit} {e : Option TemplateError} {g : Frame} (h : Q v.frame [] vs e g) :
    Q v.frame [] (v :: vs) e g :=
  hQ.trans (hfault ▸ hQ.visit hpasses) h

theorem discard_bind_pure {α β : Type} (step : Rendering α) (b : β) :
    (do discard step; pure b) = (fun _ => b) <$> step := by
  funext f
  show EStateM.bind (EStateM.map _ step) _ f = EStateM.map _ step f
  rw [EStateM.bind, EStateM.map, EStateM.map]
  cases step f <;> rfl

theorem Loop.course_bodies (hQ : IsCourse bound Q) (spec : Loop) {body : Node}
    (hbody : ∀ f, Q f [] (body.visits f) (fault? (body.render f)) (final (body.render f)))
    (items : List (Value × Value)) (f : Frame) :
    Q f (spec.passes body.render items f) (spec.visits body.render body.visits items f)
      (fault? (spec.bodies body.render items f)) (final (spec.bodies body.render items f)) := by
  induction items generalizing f with
  | nil => exact hQ.refl f
  | cons entry items ih =>
    obtain ⟨index, item⟩ := entry
    have hpass := hbody (spec.enter index item f)
    cases hrender : body.render (spec.enter index item f) with
    | ok b inner =>
      rw [hrender] at hpass
      rw [passes, visits, hrender, bodies_of_ok hrender, fault?_map, final_map]
      exact hQ.trans (hQ.iteration (p := ⟨spec, index, item, f⟩) hpass) (ih (leave f inner))
    | error e inner =>
      rw [hrender] at hpass
      rw [passes, visits, hrender, bodies_of_error hrender, List.append_nil]
      exact hQ.iteration (p := ⟨spec, index, item, f⟩) hpass

namespace Node

-- The equations of rendering and of its visits, made once here.
attribute [local simp] render renderFirst renderAll visits visitsFirst visitsAll

theorem course_renderFirst (hQ : IsCourse bound Q) {whens : List (Formula × Node)}
    (hwhens : ∀ w ∈ whens, ∀ f, Q f [] (w.2.visits f) (fault? (w.2.render f)) (final (w.2.render f)))
    {v : Visit} (hpasses : v.passes = []) (hfault : v.fault? = (tests whens v.frame).findSome? Evaluation.fault?) :
    Q v.frame [] (v :: visitsFirst whens v.frame) (fault? (renderFirst whens v.frame))
      (final (renderFirst whens v.frame)) := by
  induction whens with
  | nil =>
    rw [visitsFirst, renderFirst]
    exact hQ.cons hpasses hfault (hQ.refl v.frame)
  | cons w whens ih =>
    obtain ⟨cond, body⟩ := w
    obtain ⟨hbody, hwhens⟩ := List.forall_mem_cons.1 hwhens
    rw [visitsFirst, renderFirst, test]
    cases htest : cond.evalTruth v.frame.lookup with
    | error cause =>
      rw [tests_cons_of_error htest, List.findSome?_cons, Evaluation.fault?_test_of_error htest] at hfault
      rw [bind_of_error (Rendering.calculate_eq_error.2 ⟨cause, htest, rfl, rfl⟩)]
      have hvisit := hQ.visit hpasses
      rw [hfault] at hvisit
      exact hvisit
    | ok holds =>
      rw [bind_of_ok (Rendering.calculate_eq_ok.2 ⟨htest, rfl⟩)]
      cases holds with
      | true =>
        rw [tests_cons_true htest, List.findSome?_cons, Evaluation.fault?_test_of_ok htest] at hfault
        rw [if_pos rfl, discard_bind_pure, fault?_map, final_map]
        exact hQ.cons hpasses hfault (hbody v.frame)
      | false =>
        rw [tests_cons_false htest, List.findSome?_cons, Evaluation.fault?_test_of_ok htest] at hfault
        rw [if_neg Bool.false_ne_true]
        exact ih hwhens hfault

theorem course_renderAll (hQ : IsCourse bound Q) {children : List Node}
    (hchildren : ∀ n ∈ children, ∀ f, Q f [] (n.visits f) (fault? (n.render f)) (final (n.render f)))
    (f : Frame) :
    Q f [] (visitsAll children f) (fault? (renderAll children f)) (final (renderAll children f)) := by
  induction children generalizing f with
  | nil =>
    rw [visitsAll, renderAll]
    exact hQ.refl f
  | cons n children ih =>
    obtain ⟨hn, hchildren⟩ := List.forall_mem_cons.1 hchildren
    have hfirst := hn f
    cases hrender : n.render f with
    | ok b g =>
      rw [hrender] at hfirst
      rw [visitsAll, hrender, renderAll_cons hrender]
      exact hQ.trans hfirst (ih hchildren g)
    | error e g =>
      rw [hrender] at hfirst
      have hdiscard : discard n.render f = .error e g := by
        show EStateM.map _ _ f = _
        rw [EStateM.map, hrender]
      rw [visitsAll, hrender, renderAll, bind_of_error hdiscard, List.append_nil]
      exact hfirst

variable {f : Frame}

theorem course_conditional (hQ : IsCourse bound Q) {cond : Formula} {body : Node}
    (hbody : Q f [] (body.visits f) (fault? (body.render f)) (final (body.render f))) :
    Q f [] ((conditional cond body).visits f) (fault? ((conditional cond body).render f))
      (final ((conditional cond body).render f)) := by
  rw [visits, render, test]
  cases htest : cond.evalTruth f.lookup with
  | error cause =>
    rw [bind_of_error (Rendering.calculate_eq_error.2 ⟨cause, htest, rfl, rfl⟩)]
    have hvisit := hQ.visit (v := ⟨conditional cond body, f⟩) rfl
    rw [Visit.fault?_eq rfl, Evaluation.fault?_test_of_error htest] at hvisit
    exact hvisit
  | ok holds =>
    have hfault : Visit.fault? ⟨conditional cond body, f⟩ = none :=
      (Visit.fault?_eq rfl).trans (Evaluation.fault?_test_of_ok htest)
    rw [bind_of_ok (Rendering.calculate_eq_ok.2 ⟨htest, rfl⟩)]
    cases holds with
    | true =>
      rw [if_pos rfl, discard_bind_pure, fault?_map, final_map]
      exact hQ.cons (v := ⟨conditional cond body, f⟩) rfl hfault hbody
    | false => exact hQ.cons (v := ⟨conditional cond body, f⟩) rfl hfault (hQ.refl f)

theorem course_choose (hQ : IsCourse bound Q) {whens : List (Formula × Node)} {otherwise : Option Node}
    (hwhens : ∀ w ∈ whens, ∀ f, Q f [] (w.2.visits f) (fault? (w.2.render f)) (final (w.2.render f)))
    (hotherwise : ∀ n ∈ otherwise, ∀ f, Q f [] (n.visits f) (fault? (n.render f)) (final (n.render f))) :
    Q f [] ((choose whens otherwise).visits f) (fault? ((choose whens otherwise).render f))
      (final ((choose whens otherwise).render f)) := by
  have hfirst := course_renderFirst hQ hwhens (v := ⟨choose whens otherwise, f⟩) rfl rfl
  cases otherwise with
  | none =>
    rw [visits, render]
    exact hfirst
  | some n =>
    rw [visits, render]
    dsimp only at hfirst
    cases htaken : renderFirst whens f with
    | error e g =>
      rw [htaken] at hfirst
      rw [bind_of_error htaken, List.append_nil]
      exact hfirst
    | ok taken g =>
      rw [htaken] at hfirst
      rw [bind_of_ok htaken]
      cases taken with
      | true =>
        rw [if_pos rfl, List.append_nil]
        exact hfirst
      | false =>
        rw [if_neg Bool.false_ne_true, discard_bind_pure, fault?_map, final_map]
        exact hQ.trans hfirst (hotherwise n rfl g)

theorem course_loop (hQ : IsCourse bound Q) {spec : Loop} {body : Node}
    (hbody : ∀ f, Q f [] (body.visits f) (fault? (body.render f)) (final (body.render f))) :
    Q f [] ((loop spec body).visits f) (fault? ((loop spec body).render f))
      (final ((loop spec body).render f)) := by
  rw [visits]
  cases hitems : spec.collection.evalItems f.lookup with
  | error cause =>
    rw [render, bind_of_error (Rendering.calculate_eq_error.2 ⟨cause, hitems, rfl, rfl⟩)]
    have hvisit := hQ.visit (Visit.passes_loop_of_error hitems body)
    rw [Visit.fault?_eq rfl, Evaluation.fault?_collection_of_error hitems] at hvisit
    exact hvisit
  | ok items =>
    have hfault : Visit.fault? ⟨loop spec body, f⟩ = none :=
      (Visit.fault?_eq rfl).trans (Evaluation.fault?_collection_of_ok hitems)
    have hloop := spec.course_bodies hQ hbody items f
    rw [← Visit.passes_loop hitems body] at hloop
    refine hQ.loop hfault ?_
    cases hbodies : spec.bodies body.render items f with
    | error e g =>
      rw [hbodies] at hloop
      rw [render, bind_of_ok (Rendering.calculate_eq_ok.2 ⟨hitems, rfl⟩), bind_of_error hbodies]
      exact hloop
    | ok texts g =>
      rw [hbodies] at hloop
      have hwritten := hQ.trans hloop (hQ.append g (joined spec texts))
      rw [List.append_nil, List.append_nil] at hwritten
      rw [render_loop hitems hbodies]
      exact hwritten

theorem course_clause (hQ : IsCourse bound Q) {spec : Clause} {body : Node}
    (hbody : ∀ f, Q f [] (body.visits f) (fault? (body.render f)) (final (body.render f))) :
    Q f [] ((clause spec body).visits f) (fault? ((clause spec body).render f))
      (final ((clause spec body).render f)) := by
  have hinner := hbody { f with text := "" }
  rw [visits, render]
  refine hQ.cons (v := ⟨clause spec body, f⟩) rfl rfl ?_
  cases hrender : body.render { f with text := "" } with
  | error e g =>
    rw [hrender] at hinner
    rw [bind_of_error (Rendering.capture_of_error hrender)]
    exact hQ.capture hinner
  | ok b g =>
    rw [hrender] at hinner
    rw [bind_of_ok (Rendering.capture_eq_ok.2 ⟨g, hrender, rfl, rfl⟩)]
    have hwritten := hQ.trans (hQ.capture hinner)
      (hQ.append { g with text := f.text } (String.ofList (spec.apply g.text.toList)))
    rw [List.append_nil, List.append_nil] at hwritten
    exact hwritten

theorem course_bind (hQ : IsCourse bound Q) {name : String} (hname : bound name) {value : Formula} :
    Q f [] ((bind name value).visits f) (fault? ((bind name value).render f))
      (final ((bind name value).render f)) := by
  rw [visits]
  cases hvalue : value.eval f.lookup with
  | error cause =>
    rw [render, bind_of_error (Rendering.calculate_eq_error.2 ⟨cause, hvalue, rfl, rfl⟩)]
    have hvisit := hQ.visit (v := ⟨bind name value, f⟩) rfl
    rw [Visit.fault?_eq rfl, Evaluation.fault?_value_of_error hvalue] at hvisit
    exact hvisit
  | ok v =>
    have hfault : Visit.fault? ⟨bind name value, f⟩ = none :=
      (Visit.fault?_eq rfl).trans (Evaluation.fault?_value_of_ok hvalue)
    rw [render_bind hvalue]
    exact hQ.cons (v := ⟨bind name value, f⟩) rfl hfault (hQ.bind f name v hname)

theorem course_composite (hQ : IsCourse bound Q) {children : List Node}
    (hchildren : ∀ n ∈ children, ∀ f, Q f [] (n.visits f) (fault? (n.render f)) (final (n.render f))) :
    Q f [] ((composite children).visits f) (fault? ((composite children).render f))
      (final ((composite children).render f)) := by
  have hall := course_renderAll hQ hchildren f
  rw [visits]
  refine hQ.cons (v := ⟨composite children, f⟩) rfl rfl ?_
  cases hrender : renderAll children f with
  | error e g =>
    rw [hrender] at hall
    rw [render, bind_of_error hrender]
    exact hall
  | ok u g =>
    rw [hrender] at hall
    rw [render_composite hrender]
    exact hall

/-- A relation that the steps of rendering keep holds of the rendering of every template, of the visits that it
makes, and of the error with which it fails. -/
theorem course (hQ : IsCourse bound Q) (n : Node) (hn : ∀ name, n.Binds name → bound name) (f : Frame) :
    Q f [] (n.visits f) (fault? (n.render f)) (final (n.render f)) := by
  induction n generalizing f with
  | text s =>
    rw [visits, render_text]
    exact hQ.cons (v := ⟨text s, f⟩) rfl rfl (hQ.append f s)
  | conditional cond body ih =>
    exact course_conditional hQ (ih (fun name h => hn name (h.imp fun _ => .conditional)) f)
  | choose whens otherwise ihwhens ihotherwise =>
    exact course_choose hQ
      (fun w hw => ihwhens w hw fun name h => hn name (h.imp fun _ => .when hw))
      (fun n hmem => ihotherwise n hmem fun name h => hn name (h.imp fun _ => hmem ▸ .otherwise))
  | loop spec body ih => exact course_loop hQ (ih fun name h => hn name (h.imp fun _ => .loop))
  | clause spec body ih => exact course_clause hQ (ih fun name h => hn name (h.imp fun _ => .clause))
  | bind name value => exact course_bind hQ (hn name ⟨value, .here⟩)
  | composite children ih =>
    exact course_composite hQ fun n hmem => ih n hmem fun name h => hn name (h.imp fun _ => .composite hmem)

end Node

/-! ### The first evaluation that fails -/

theorem isCourse_fault : IsCourse (fun _ => True) fun _ _ vs e _ => e = vs.findSome? Visit.fault? where
  refl _ := rfl
  trans {_ _ _ _ _ vs ws e} hvs hws := by
    rw [List.findSome?_append, ← hvs, Option.none_or]
    exact hws
  append _ _ := rfl
  bind _ _ _ _ := rfl
  visit {v} _ := by
    rw [List.findSome?_cons]
    cases v.fault? <;> rfl
  capture h := h
  iteration h := h
  loop hfault h := by
    rw [List.findSome?_cons, hfault]
    exact h

/-- Rendering a template fails just with the error of the first evaluation that has one. -/
theorem Node.fault?_render (n : Node) (f : Frame) :
    fault? (n.render f) = (n.evaluations f).findSome? Evaluation.fault? := by
  rw [Node.evaluations, findSome?_evaluations]
  exact n.course isCourse_fault (fun _ _ => trivial) f

end DynamicSql
