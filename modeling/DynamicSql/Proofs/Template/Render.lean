import DynamicSql.Proofs.Step
import DynamicSql.Template.Render

/-!
# What rendering does

For each kind of template, what it means that its rendering succeeds: which parts are rendered, in
which frames, and what becomes of the text. Later proofs take a rendering apart with these lemmas and
never open `Node.render`.
-/

namespace DynamicSql

open Step

namespace Rendering

variable {α : Type} {f g : Frame}

theorem calculate_eq_ok {fault : ExprError → TemplateError} {a : α}
    {calculation : Expr.Lookup → Except ExprError α} :
    calculate fault calculation f = .ok a g ↔ calculation f.lookup = .ok a ∧ g = f := by
  rw [calculate]
  cases calculation f.lookup with
  | ok b => simp [eq_comm (a := g)]
  | error e => simp

theorem capture_eq_ok {step : Rendering α} {a : α} {text : String} :
    capture step f = .ok (a, text) g ↔
      ∃ g', step { f with text := "" } = .ok a g' ∧ text = g'.text ∧ g = { g' with text := f.text } := by
  rw [capture]
  cases step { f with text := "" } with
  | ok b g' => simp [and_assoc, eq_comm (a := text), eq_comm (a := g)]
  | error e g' => simp

theorem within_eq_ok {scope : Table String Value} {step : Rendering α} {a : α} :
    within scope step f = .ok a g ↔
      ∃ g', step { f with scopes := scope :: f.scopes } = .ok a g' ∧
        g = { g' with scopes := f.scopes } := by
  rw [within]
  cases step { f with scopes := scope :: f.scopes } with
  | ok b g' => simp [and_assoc, eq_comm (a := g)]
  | error e g' => simp

variable {step : Rendering α} {e : TemplateError}

theorem calculate_eq_error {fault : ExprError → TemplateError} {calculation : Expr.Lookup → Except ExprError α} :
    calculate fault calculation f = .error e g ↔
      ∃ cause, calculation f.lookup = .error cause ∧ e = fault cause ∧ g = f := by
  rw [calculate]
  cases calculation f.lookup with
  | ok b => simp
  | error cause => simp [eq_comm (a := e), eq_comm (a := g)]

theorem capture_of_error (h : step { f with text := "" } = .error e g) :
    capture step f = .error e { g with text := f.text } := by
  rw [capture, h]

theorem within_of_error {scope : Table String Value}
    (h : step { f with scopes := scope :: f.scopes } = .error e g) :
    within scope step f = .error e { g with scopes := f.scopes } := by
  rw [within, h]

end Rendering

open Rendering

/-! ### Loops -/

namespace Loop

/-- The variables with those of an iteration. -/
def bindIteration (spec : Loop) (number : Nat) (index item : Value) (bindings : Table String Value) :
    Table String Value :=
  (spec.names index item).foldl (fun b (name, v) => b.insert (bindingName name number) v) bindings

/-- The frame in which the body of an iteration is rendered: the number is taken, the variables are
bound, the scope is entered, and nothing is written yet. -/
def enter (spec : Loop) (index item : Value) (f : Frame) : Frame where
  argument := f.argument
  bindings := spec.bindIteration f.nextNumber index item f.bindings
  scopes := Table.ofEntries (spec.names index item) :: f.scopes
  text := ""
  nextNumber := f.nextNumber + 1

/-- The frame `f` after an iteration whose body ended in `g`. -/
def leave (f g : Frame) : Frame := { g with text := f.text, scopes := f.scopes }

/-- The texts of the iterations from one on, given those behind it. -/
def withText (spec : Loop) (number : Nat) (text : String) (others : List String) : List String :=
  if Text.allBlank text.toList then others
  else String.ofList (itemize spec.aliases number text.toList) :: others

theorem foldl_bind (number : Nat) (names : List (String × Value)) (f : Frame) :
    names.foldl (fun f (name, v) => f.bind (bindingName name number) v) f =
      { f with
        bindings := names.foldl (fun b (name, v) => b.insert (bindingName name number) v) f.bindings } := by
  induction names generalizing f with
  | nil => rfl
  | cons entry names ih => rw [List.foldl_cons, ih]; rfl

variable {spec : Loop} {body : Rendering Bool} {index item : Value} {rest : List (Value × Value)}
  {f g inner : Frame} {texts : List String}

theorem bodies_nil_eq_ok : spec.bodies body [] f = .ok texts g ↔ texts = [] ∧ g = f := pure_eq_ok

theorem bodies_cons (spec : Loop) (body : Rendering Bool) (index item : Value)
    (rest : List (Value × Value)) (f : Frame) :
    spec.bodies body ((index, item) :: rest) f =
      (do
        let (_, text) ← within (Table.ofEntries (spec.names index item)) (capture body)
        let others ← spec.bodies body rest
        return spec.withText f.nextNumber text others)
        { spec.enter index item f with text := f.text, scopes := f.scopes } := by
  have htake : (modifyGet Frame.takeNumber : Rendering Nat) f = .ok f.nextNumber f.takeNumber.2 := rfl
  have hbind : spec.bindNames f.nextNumber index item f.takeNumber.2 =
      .ok () { spec.enter index item f with text := f.text, scopes := f.scopes } :=
    congrArg (EStateM.Result.ok ()) (foldl_bind f.nextNumber (spec.names index item) f.takeNumber.2)
  rw [bodies, bind_of_ok htake, bind_of_ok hbind]
  simp only [withText, apply_ite pure]

theorem bodies_of_error {e : TemplateError} (h : body (spec.enter index item f) = .error e inner) :
    spec.bodies body ((index, item) :: rest) f = .error e (leave f inner) := by
  rw [bodies_cons]
  exact bind_of_error (within_of_error (capture_of_error h)) _

theorem bodies_of_ok {b : Bool} (h : body (spec.enter index item f) = .ok b inner) :
    spec.bodies body ((index, item) :: rest) f =
      (spec.withText f.nextNumber inner.text <$> spec.bodies body rest) (leave f inner) := by
  rw [bodies_cons, bind_of_ok (within_eq_ok.2 ⟨_, capture_eq_ok.2 ⟨inner, h, rfl, rfl⟩, rfl⟩)]
  rfl

theorem of_bodies_cons (h : spec.bodies body ((index, item) :: rest) f = .ok texts g) :
    ∃ selected inner others, body (spec.enter index item f) = .ok selected inner ∧
      spec.bodies body rest (leave f inner) = .ok others g ∧
      texts = spec.withText f.nextNumber inner.text others := by
  cases hbody : body (spec.enter index item f) with
  | error e inner =>
    rw [bodies_of_error hbody] at h
    cases h
  | ok selected inner =>
    rw [bodies_of_ok hbody] at h
    obtain ⟨others, hrest, rfl⟩ := map_eq_ok.1 h
    exact ⟨selected, inner, others, rfl, hrest, rfl⟩

end Loop

namespace Node

variable {f g : Frame} {selected : Bool}

-- The equations of rendering, made once here for all proofs that take it apart.
attribute [local simp] render renderFirst renderAll

theorem render_text (s : String) (f : Frame) : (text s).render f = .ok true (f.append s) := by
  rw [render]
  rfl

theorem of_render_conditional {cond : Formula} {body : Node}
    (h : (conditional cond body).render f = .ok selected g) :
    (cond.evalTruth f.lookup = .ok false ∧ selected = false ∧ g = f) ∨
      (cond.evalTruth f.lookup = .ok true ∧ selected = true ∧ ∃ b, body.render f = .ok b g) := by
  rw [render, test] at h
  obtain ⟨holds, f₁, htest, h⟩ := bind_eq_ok.1 h
  obtain ⟨htest, rfl⟩ := calculate_eq_ok.1 htest
  cases holds with
  | false => exact .inl ⟨htest, pure_eq_ok.1 h⟩
  | true =>
    obtain ⟨_, f₂, hbody, h⟩ := bind_eq_ok.1 h
    obtain ⟨rfl, rfl⟩ := pure_eq_ok.1 h
    exact .inr ⟨htest, rfl, discard_eq_ok.1 hbody⟩

theorem render_conditional_of_false {cond : Formula} (h : cond.evalTruth f.lookup = .ok false) (body : Node) :
    (conditional cond body).render f = .ok false f := by
  rw [render, test, bind_of_ok (calculate_eq_ok.2 ⟨h, rfl⟩)]
  rfl

theorem render_conditional_of_true {cond : Formula} {body : Node} (h : cond.evalTruth f.lookup = .ok true)
    (hbody : body.render f = .ok selected g) : (conditional cond body).render f = .ok true g := by
  have hdiscard : (discard body.render) f = .ok () g := discard_eq_ok.2 ⟨selected, hbody⟩
  rw [render, test, bind_of_ok (calculate_eq_ok.2 ⟨h, rfl⟩), if_pos rfl, bind_of_ok hdiscard]
  rfl

theorem of_renderFirst_cons {cond : Formula} {body : Node} {rest : List (Formula × Node)}
    (h : renderFirst ((cond, body) :: rest) f = .ok selected g) :
    (cond.evalTruth f.lookup = .ok false ∧ renderFirst rest f = .ok selected g) ∨
      (cond.evalTruth f.lookup = .ok true ∧ selected = true ∧ ∃ b, body.render f = .ok b g) := by
  rw [renderFirst, test] at h
  obtain ⟨holds, f₁, htest, h⟩ := bind_eq_ok.1 h
  obtain ⟨htest, rfl⟩ := calculate_eq_ok.1 htest
  cases holds with
  | false => exact .inl ⟨htest, h⟩
  | true =>
    obtain ⟨_, f₂, hbody, h⟩ := bind_eq_ok.1 h
    obtain ⟨rfl, rfl⟩ := pure_eq_ok.1 h
    exact .inr ⟨htest, rfl, discard_eq_ok.1 hbody⟩

theorem of_renderFirst_nil (h : renderFirst [] f = .ok selected g) : selected = false ∧ g = f := by
  rw [renderFirst] at h
  exact pure_eq_ok.1 h

theorem eq_of_renderFirst_false {whens : List (Formula × Node)}
    (h : renderFirst whens f = .ok false g) : g = f := by
  induction whens with
  | nil => exact (of_renderFirst_nil h).2
  | cons w whens ih =>
    rcases of_renderFirst_cons h with ⟨-, h⟩ | ⟨-, h, -⟩
    · exact ih h
    · cases h

theorem of_render_choose {whens : List (Formula × Node)} {otherwise : Option Node}
    (h : (choose whens otherwise).render f = .ok selected g) :
    (renderFirst whens f = .ok true g ∧ selected = true) ∨
      (renderFirst whens f = .ok false f ∧
        match otherwise with
        | none => selected = false ∧ g = f
        | some n => selected = true ∧ ∃ b, n.render f = .ok b g) := by
  cases otherwise with
  | none =>
    rw [render] at h
    cases selected with
    | false =>
      obtain rfl := eq_of_renderFirst_false h
      exact .inr ⟨h, rfl, rfl⟩
    | true => exact .inl ⟨h, rfl⟩
  | some n =>
    rw [render] at h
    obtain ⟨taken, f₁, hfirst, hrest⟩ := bind_eq_ok.1 h
    cases taken with
    | false =>
      obtain rfl := eq_of_renderFirst_false hfirst
      obtain ⟨_, f₂, hbody, hlast⟩ := bind_eq_ok.1 hrest
      obtain ⟨rfl, rfl⟩ := pure_eq_ok.1 hlast
      exact .inr ⟨hfirst, rfl, discard_eq_ok.1 hbody⟩
    | true =>
      obtain ⟨rfl, rfl⟩ := pure_eq_ok.1 hrest
      exact .inl ⟨hfirst, rfl⟩

/-- What a loop writes around and between the texts of its iterations. -/
def joined (spec : Loop) (texts : List String) : String :=
  if texts.isEmpty then "" else spec.opening ++ spec.separator.intercalate texts ++ spec.closing

theorem of_render_loop {spec : Loop} {body : Node} (h : (loop spec body).render f = .ok selected g) :
    selected = true ∧ ∃ items texts f', spec.collection.evalItems f.lookup = .ok items ∧
      spec.bodies body.render items f = .ok texts f' ∧ g = f'.append (joined spec texts) := by
  rw [render] at h
  obtain ⟨items, f₁, hcalculate, hloop⟩ := bind_eq_ok.1 h
  obtain ⟨hitems, rfl⟩ := calculate_eq_ok.1 hcalculate
  obtain ⟨texts, f₂, hbodies, hrest⟩ := bind_eq_ok.1 hloop
  split at hrest
  · next hempty =>
    obtain ⟨rfl, rfl⟩ := pure_eq_ok.1 hrest
    refine ⟨rfl, items, texts, g, hitems, hbodies, ?_⟩
    rw [joined, if_pos hempty, Frame.append, String.append_empty]
  · next hempty =>
    obtain ⟨_, f₃, hwrite, hlast⟩ := bind_eq_ok.1 hrest
    obtain rfl := modify_eq_ok.1 hwrite
    obtain ⟨rfl, rfl⟩ := pure_eq_ok.1 hlast
    refine ⟨rfl, items, texts, f₂, hitems, hbodies, ?_⟩
    rw [joined, if_neg hempty]

theorem render_loop {spec : Loop} {body : Node} {items : List (Value × Value)} {texts : List String}
    (hitems : spec.collection.evalItems f.lookup = .ok items)
    (hbodies : spec.bodies body.render items f = .ok texts g) :
    (loop spec body).render f = .ok true (g.append (joined spec texts)) := by
  rw [render, bind_of_ok (calculate_eq_ok.2 ⟨hitems, rfl⟩), bind_of_ok hbodies, joined]
  split
  · rw [Frame.append, String.append_empty]
    rfl
  · rfl

theorem of_render_clause {spec : Clause} {body : Node}
    (h : (clause spec body).render f = .ok selected g) :
    ∃ inner, body.render { f with text := "" } = .ok selected inner ∧
      g = { inner with text := f.text ++ String.ofList (spec.apply inner.text.toList) } := by
  rw [render] at h
  obtain ⟨⟨b, text⟩, f₁, hcapture, h⟩ := bind_eq_ok.1 h
  obtain ⟨inner, hbody, rfl, rfl⟩ := capture_eq_ok.1 hcapture
  obtain ⟨_, f₂, hwrite, h⟩ := bind_eq_ok.1 h
  obtain rfl := modify_eq_ok.1 hwrite
  obtain ⟨rfl, rfl⟩ := pure_eq_ok.1 h
  exact ⟨inner, hbody, rfl⟩

theorem render_clause {spec : Clause} {body : Node} (h : body.render { f with text := "" } = .ok selected g) :
    (clause spec body).render f =
      .ok selected { g with text := f.text ++ String.ofList (spec.apply g.text.toList) } := by
  rw [render, bind_of_ok (capture_eq_ok.2 ⟨g, h, rfl, rfl⟩)]
  rfl

theorem of_render_bind {name : String} {value : Formula}
    (h : (bind name value).render f = .ok selected g) :
    selected = true ∧ ∃ v, value.eval f.lookup = .ok v ∧ g = f.bind name v := by
  rw [render] at h
  obtain ⟨v, f₁, hcalculate, hrest⟩ := bind_eq_ok.1 h
  obtain ⟨hvalue, rfl⟩ := calculate_eq_ok.1 hcalculate
  obtain ⟨_, f₂, hbind, hlast⟩ := bind_eq_ok.1 hrest
  obtain rfl := modify_eq_ok.1 hbind
  obtain ⟨rfl, rfl⟩ := pure_eq_ok.1 hlast
  exact ⟨rfl, v, hvalue, rfl⟩

theorem render_bind {name : String} {value : Formula} {v : Value} (h : value.eval f.lookup = .ok v) :
    (bind name value).render f = .ok true (f.bind name v) := by
  rw [render, bind_of_ok (calculate_eq_ok.2 ⟨h, rfl⟩)]
  rfl

theorem of_render_composite {children : List Node}
    (h : (composite children).render f = .ok selected g) :
    selected = true ∧ renderAll children f = .ok () g := by
  rw [render] at h
  obtain ⟨⟨⟩, f₁, hall, h⟩ := bind_eq_ok.1 h
  obtain ⟨rfl, rfl⟩ := pure_eq_ok.1 h
  exact ⟨rfl, hall⟩

theorem render_composite {children : List Node} (h : renderAll children f = .ok () g) :
    (composite children).render f = .ok true g := by
  rw [render, bind_of_ok h]
  rfl

theorem of_renderAll_nil {u : Unit} (h : renderAll [] f = .ok u g) : g = f := by
  rw [renderAll] at h
  exact (pure_eq_ok.1 h).2

theorem of_renderAll_cons {n : Node} {rest : List Node} {u : Unit}
    (h : renderAll (n :: rest) f = .ok u g) :
    ∃ b f', n.render f = .ok b f' ∧ renderAll rest f' = .ok () g := by
  rw [renderAll] at h
  obtain ⟨_, f₁, hn, hrest⟩ := bind_eq_ok.1 h
  obtain ⟨b, hn⟩ := discard_eq_ok.1 hn
  exact ⟨b, f₁, hn, hrest⟩

theorem renderAll_nil (f : Frame) : renderAll [] f = .ok () f := by
  rw [renderAll]
  rfl

theorem renderAll_cons {n : Node} {rest : List Node} {b : Bool} (h : n.render f = .ok b g) :
    renderAll (n :: rest) f = renderAll rest g := by
  have hn : (discard n.render) f = .ok () g := discard_eq_ok.2 ⟨b, h⟩
  rw [renderAll, bind_of_ok hn]

theorem renderFor_eq_ok {n : Node} {argument : Value} {databaseId : Option String} {o : Rendered} :
    n.renderFor argument databaseId = .ok o ↔
      ∃ b g, n.render (.start argument databaseId) = .ok b g ∧ o = ⟨g.text, g.bindings⟩ := by
  rw [renderFor]
  cases n.render (.start argument databaseId) with
  | ok b g => exact ⟨fun h => ⟨b, g, rfl, (Except.ok.inj h).symm⟩, fun ⟨_, _, h, ho⟩ => by cases h; rw [ho]⟩
  | error e g => exact ⟨(nomatch ·), fun ⟨_, _, h, _⟩ => nomatch h⟩

end Node

end DynamicSql
