import DynamicSql.Proofs.Expr.Names
import DynamicSql.Proofs.Table
import DynamicSql.Proofs.Template.Render

/-!
# Renderings in step

Two renderings of one template go on in step, from frames that differ in nothing which the template looks up:
they succeed or fail together, with the same text (`Node.Avoids.inStep_render`). The frames may hold different
arguments, as long as every name stands for the same as a property of them, and different variables under names
that the template avoids.
-/

namespace DynamicSql

open Step

/-- The formula looks up no name that is hidden. -/
def Formula.Avoids (hidden : String → Prop) (f : Formula) : Prop := ∀ name ∈ f.expr.names, ¬ hidden name

/-! ### Steps in step -/

namespace Step

variable {ε σ α β : Type} {R : σ → σ → Prop}

/-- Both results succeed with the same value in related states, or fail with the same error. -/
inductive Together (R : σ → σ → Prop) : EStateM.Result ε σ α → EStateM.Result ε σ α → Prop
  | ok {a : α} {s t : σ} : R s t → Together R (.ok a s) (.ok a t)
  | error {e : ε} {s t : σ} : Together R (.error e s) (.error e t)

/-- From related states the step comes to results that go together. -/
def InStep (R : σ → σ → Prop) (step : EStateM ε σ α) : Prop := ∀ ⦃s t⦄, R s t → Together R (step s) (step t)

theorem InStep.pure (a : α) : InStep R (Pure.pure a : EStateM ε σ α) := fun _ _ h => .ok h

theorem InStep.modifyGet {u : σ → α × σ} (h : ∀ ⦃s t⦄, R s t → (u s).1 = (u t).1 ∧ R (u s).2 (u t).2) :
    InStep R (modifyGet u : EStateM ε σ α) := by
  intro s t hst
  obtain ⟨hvalue, hstate⟩ := h hst
  show Together R (.ok (u s).1 (u s).2) (.ok (u t).1 (u t).2)
  rw [hvalue]
  exact .ok hstate

theorem InStep.modify {u : σ → σ} (h : ∀ ⦃s t⦄, R s t → R (u s) (u t)) :
    InStep R (modify u : EStateM ε σ Unit) :=
  InStep.modifyGet fun _ _ hst => ⟨rfl, h hst⟩

theorem InStep.bind {step : EStateM ε σ α} {next : α → EStateM ε σ β} (hstep : InStep R step)
    (hnext : ∀ a, InStep R (next a)) : InStep R (step >>= next) := by
  intro s t hst
  have htogether := hstep hst
  generalize hs : step s = result₁, ht : step t = result₂ at htogether
  cases htogether with
  | ok hst' =>
    rw [bind_of_ok hs, bind_of_ok ht]
    exact hnext _ hst'
  | error =>
    rw [bind_of_error hs, bind_of_error ht]
    exact .error

theorem InStep.map {step : EStateM ε σ α} (h : InStep R step) (u : α → β) : InStep R (u <$> step) := by
  rw [← bind_pure_comp]
  exact h.bind fun a => .pure (u a)

theorem InStep.discard {step : EStateM ε σ α} (h : InStep R step) : InStep R (discard step) := h.map _

end Step

/-! ### Frames that agree -/

/-- Frames in which every name that is not hidden stands for the same, now and later on: their arguments have
the same properties, and their variables differ under hidden names at most. They hold the same text. -/
structure Frame.Agrees (hidden : String → Prop) (f g : Frame) : Prop where
  argument : ∀ name, argumentProperty f.argument name = argumentProperty g.argument name
  bindings : ∀ name, ¬ hidden name → f.bindings.find? name = g.bindings.find? name
  scopes : f.scopes = g.scopes
  text : f.text = g.text
  nextNumber : f.nextNumber = g.nextNumber

variable {hidden : String → Prop} {f g : Frame}

namespace Frame.Agrees

theorem lookup (h : Agrees hidden f g) {name : String} (hname : ¬ hidden name) : f.lookup name = g.lookup name := by
  rw [Frame.lookup, Frame.lookup, h.scopes, h.bindings name hname, h.argument]

theorem append (h : Agrees hidden f g) (s : String) : Agrees hidden (f.append s) (g.append s) :=
  { h with text := congrArg (· ++ s) h.text }

theorem bind (h : Agrees hidden f g) (name : String) (v : Value) :
    Agrees hidden (f.bind name v) (g.bind name v) :=
  { h with bindings := fun _ hname => Table.find?_insert_congr (h.bindings _ hname) name v }

theorem foldl_bind (h : Agrees hidden f g) (rename : String → String) (entries : List (String × Value)) :
    Agrees hidden (entries.foldl (fun f (name, v) => f.bind (rename name) v) f)
      (entries.foldl (fun f (name, v) => f.bind (rename name) v) g) := by
  induction entries generalizing f g with
  | nil => exact h
  | cons e entries ih => exact ih (h.bind (rename e.1) e.2)

theorem takeNumber (h : Agrees hidden f g) : f.takeNumber.1 = g.takeNumber.1 ∧
    Agrees hidden f.takeNumber.2 g.takeNumber.2 :=
  ⟨h.nextNumber, { h with nextNumber := congrArg (· + 1) h.nextNumber }⟩

end Frame.Agrees

/-! ### Steps of rendering -/

namespace Rendering

variable {α : Type} {step : Rendering α}

theorem calculate_inStep (fault : ExprError → TemplateError) {calculation : Expr.Lookup → Except ExprError α}
    (h : ∀ ⦃f g : Frame⦄, f.Agrees hidden g → calculation f.lookup = calculation g.lookup) :
    InStep (Frame.Agrees hidden) (calculate fault calculation) := by
  intro f g hfg
  rw [calculate, calculate, h hfg]
  cases calculation g.lookup with
  | ok a => exact .ok hfg
  | error e => exact .error

theorem capture_inStep (h : InStep (Frame.Agrees hidden) step) :
    InStep (Frame.Agrees hidden) (capture step) := by
  intro f g hfg
  have htogether := h (s := { f with text := "" }) (t := { g with text := "" }) { hfg with text := rfl }
  rw [capture, capture]
  generalize step { f with text := "" } = result₁, step { g with text := "" } = result₂ at htogether
  cases htogether with
  | ok hinner =>
    dsimp only
    rw [hinner.text]
    exact .ok { hinner with text := hfg.text }
  | error => exact .error

theorem within_inStep (scope : Table String Value) (h : InStep (Frame.Agrees hidden) step) :
    InStep (Frame.Agrees hidden) (within scope step) := by
  intro f g hfg
  have htogether := h (s := { f with scopes := scope :: f.scopes }) (t := { g with scopes := scope :: g.scopes })
    { hfg with scopes := congrArg (scope :: ·) hfg.scopes }
  rw [within, within]
  generalize step { f with scopes := scope :: f.scopes } = result₁,
    step { g with scopes := scope :: g.scopes } = result₂ at htogether
  cases htogether with
  | ok hinner => exact .ok { hinner with scopes := hfg.scopes }
  | error => exact .error

end Rendering

open Rendering

namespace Formula

variable {formula : Formula}

theorem eval_of_agrees (h : formula.Avoids hidden) (hfg : f.Agrees hidden g) :
    formula.eval f.lookup = formula.eval g.lookup :=
  Expr.eval_congr formula.expr fun name hname => hfg.lookup (h name hname)

theorem evalTruth_of_agrees (h : formula.Avoids hidden) (hfg : f.Agrees hidden g) :
    formula.evalTruth f.lookup = formula.evalTruth g.lookup := by
  rw [evalTruth, evalTruth, eval_of_agrees h hfg]

theorem evalItems_of_agrees (h : formula.Avoids hidden) (hfg : f.Agrees hidden g) :
    formula.evalItems f.lookup = formula.evalItems g.lookup := by
  rw [evalItems, evalItems, eval_of_agrees h hfg]

end Formula

theorem Loop.bodies_inStep (spec : Loop) {body : Rendering Bool} (h : InStep (Frame.Agrees hidden) body)
    (items : List (Value × Value)) : InStep (Frame.Agrees hidden) (spec.bodies body items) := by
  induction items with
  | nil => exact .pure []
  | cons e items ih =>
    obtain ⟨index, item⟩ := e
    rw [bodies]
    refine .bind (.modifyGet fun f g hfg => hfg.takeNumber) fun number => ?_
    refine .bind (.modify fun f g hfg => hfg.foldl_bind (bindingName · number) _) fun _ => ?_
    refine .bind (within_inStep _ (capture_inStep h)) fun captured => ?_
    refine .bind ih fun others => ?_
    split <;> exact .pure _

/-! ### Templates -/

namespace Node

/-- The formulas of the template look up no name that is hidden. -/
inductive Avoids (hidden : String → Prop) : Node → Prop
  | text (s : String) : Avoids hidden (.text s)
  | conditional {test : Formula} {body : Node} : test.Avoids hidden → Avoids hidden body →
      Avoids hidden (.conditional test body)
  | choose {whens : List (Formula × Node)} {otherwise : Option Node} : (∀ w ∈ whens, w.1.Avoids hidden) →
      (∀ w ∈ whens, Avoids hidden w.2) → (∀ n ∈ otherwise, Avoids hidden n) →
      Avoids hidden (.choose whens otherwise)
  | loop {spec : Loop} {body : Node} : spec.collection.Avoids hidden → Avoids hidden body →
      Avoids hidden (.loop spec body)
  | clause {spec : Clause} {body : Node} : Avoids hidden body → Avoids hidden (.clause spec body)
  | bind {name : String} {value : Formula} : value.Avoids hidden → Avoids hidden (.bind name value)
  | composite {children : List Node} : (∀ n ∈ children, Avoids hidden n) → Avoids hidden (.composite children)

attribute [local simp] render renderFirst renderAll

theorem write_inStep (s : String) : InStep (Frame.Agrees hidden) (write s) :=
  .modify fun _ _ hfg => hfg.append s

theorem test_inStep {cond : Formula} (h : cond.Avoids hidden) : InStep (Frame.Agrees hidden) (test cond) :=
  calculate_inStep _ fun _ _ => Formula.evalTruth_of_agrees h

theorem renderFirst_inStep {whens : List (Formula × Node)} (htests : ∀ w ∈ whens, w.1.Avoids hidden)
    (hbodies : ∀ w ∈ whens, InStep (Frame.Agrees hidden) w.2.render) :
    InStep (Frame.Agrees hidden) (renderFirst whens) := by
  induction whens with
  | nil =>
    rw [renderFirst]
    exact .pure false
  | cons w whens ih =>
    obtain ⟨cond, body⟩ := w
    obtain ⟨htest, htests⟩ := List.forall_mem_cons.1 htests
    obtain ⟨hbody, hbodies⟩ := List.forall_mem_cons.1 hbodies
    rw [renderFirst]
    refine .bind (test_inStep htest) fun holds => ?_
    split
    · exact .bind hbody.discard fun _ => .pure true
    · exact ih htests hbodies

theorem renderAll_inStep {children : List Node}
    (h : ∀ n ∈ children, InStep (Frame.Agrees hidden) n.render) :
    InStep (Frame.Agrees hidden) (renderAll children) := by
  induction children with
  | nil =>
    rw [renderAll]
    exact .pure ()
  | cons n children ih =>
    obtain ⟨hn, hchildren⟩ := List.forall_mem_cons.1 h
    rw [renderAll]
    exact .bind hn.discard fun _ => ih hchildren

/-- A template is rendered in step from frames that agree on all that it looks up. -/
theorem Avoids.inStep_render {n : Node} (hn : n.Avoids hidden) : InStep (Frame.Agrees hidden) n.render := by
  induction hn with
  | text s =>
    rw [render]
    exact .bind (write_inStep s) fun _ => .pure true
  | conditional htest _ ih =>
    rw [render]
    refine .bind (test_inStep htest) fun holds => ?_
    split
    · exact .bind ih.discard fun _ => .pure true
    · exact .pure false
  | @choose whens otherwise htests _ _ hwhens hotherwise =>
    have hfirst := renderFirst_inStep htests hwhens
    cases otherwise with
    | none =>
      rw [render]
      exact hfirst
    | some n =>
      rw [render]
      refine .bind hfirst fun taken => ?_
      split
      · exact .pure true
      · exact .bind (hotherwise n rfl).discard fun _ => .pure true
  | loop hcollection _ ih =>
    rw [render]
    refine .bind (calculate_inStep _ fun _ _ => Formula.evalItems_of_agrees hcollection) fun items => ?_
    refine .bind (Loop.bodies_inStep _ ih items) fun texts => ?_
    split
    · exact .pure true
    · exact .bind (write_inStep _) fun _ => .pure true
  | clause _ ih =>
    rw [render]
    refine .bind (capture_inStep ih) fun captured => ?_
    exact .bind (write_inStep _) fun _ => .pure _
  | bind hvalue =>
    rw [render]
    refine .bind (calculate_inStep _ fun _ _ => Formula.eval_of_agrees hvalue) fun v => ?_
    exact .bind (.modify fun _ _ hfg => hfg.bind _ v) fun _ => .pure true
  | composite _ ih =>
    rw [render]
    exact .bind (renderAll_inStep ih) fun _ => .pure true

theorem Avoids.renderFor_inStep {n : Node} (hn : n.Avoids (· = Frame.argumentKey)) {argument₁ argument₂ : Value}
    (hargument : ∀ name, Frame.argumentProperty argument₁ name = Frame.argumentProperty argument₂ name)
    (databaseId : Option String) :
    (∃ e, n.renderFor argument₁ databaseId = .error e ∧ n.renderFor argument₂ databaseId = .error e) ∨
      ∃ rendered₁ rendered₂, n.renderFor argument₁ databaseId = .ok rendered₁ ∧
        n.renderFor argument₂ databaseId = .ok rendered₂ ∧ rendered₁.sql = rendered₂.sql ∧
        ∀ name ≠ Frame.argumentKey, rendered₁.bindings.find? name = rendered₂.bindings.find? name := by
  have hstart : (Frame.start argument₁ databaseId).Agrees (· = Frame.argumentKey)
      (.start argument₂ databaseId) := by
    refine ⟨hargument, fun name hname => Table.find?_insert_congr ?_ _ _, rfl, rfl, rfl⟩
    exact (Table.find?_insert_of_ne [] argument₁ hname).trans (Table.find?_insert_of_ne [] argument₂ hname).symm
  have htogether := hn.inStep_render hstart
  rw [renderFor, renderFor]
  generalize n.render (.start argument₁ databaseId) = result₁, n.render (.start argument₂ databaseId) = result₂
    at htogether
  cases htogether with
  | ok hfg => exact .inr ⟨_, _, rfl, rfl, hfg.text, hfg.bindings⟩
  | error => exact .inl ⟨_, rfl, rfl⟩

end Node

end DynamicSql
