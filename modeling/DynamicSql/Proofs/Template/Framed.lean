import DynamicSql.Proofs.Template.Kept
import DynamicSql.Proofs.Template.Variable

/-!
# The stack of rendering

A step on a frame hands over the text that it captures, and gives the scopes back as they were. Here
rendering runs on a stack of texts and a stack of scopes instead: the body of a clause or of an iteration
is rendered on a new text, which is taken off the stack when the body has ended or failed, and an
iteration puts its scope on the scopes and takes one off. Both do the same (`Node.renderOn_eq`), so that
what rendering keeps of frames (`Frame.Framed`) it also keeps of the stack (`Node.renderOn_framed`).
-/

namespace DynamicSql

open Step

/-! ### What rendering leaves -/

namespace Table

variable {κ α : Type} [DecidableEq κ] {P : κ → Prop} {t u w : Table κ α}

/-- The table `u` has values under all keys of `t`, and other values only under keys with `P`. -/
def Keeps (P : κ → Prop) (t u : Table κ α) : Prop :=
  ∀ k v, t.find? k = some v → ∃ v', u.find? k = some v' ∧ (v' = v ∨ P k)

theorem Keeps.refl (t : Table κ α) : Keeps P t t := fun _ v h => ⟨v, h, .inl rfl⟩

theorem Keeps.trans (ht : Keeps P t u) (hu : Keeps P u w) : Keeps P t w := by
  intro k v h
  obtain ⟨v', h', hv'⟩ := ht k v h
  obtain ⟨v'', h'', hv''⟩ := hu k v' h'
  refine ⟨v'', h'', ?_⟩
  rcases hv'' with rfl | hP
  · exact hv'
  · exact .inr hP

variable [LT κ] [DecidableLT κ]

theorem Keeps.insert (t : Table κ α) {k : κ} (v : α) (hk : P k) : Keeps P t (t.insert k v) := by
  intro k' v' h
  by_cases hkk' : k' = k
  · subst hkk'
    exact ⟨v, find?_insert_self t k' v, .inr hk⟩
  · exact ⟨v', (find?_insert_of_ne t v hkk').trans h, .inl rfl⟩

theorem Keeps.foldl_insert {β : Type} {key : β → κ} {value : β → α} (entries : List β)
    (hentries : ∀ e ∈ entries, P (key e)) (t : Table κ α) :
    Keeps P t (entries.foldl (fun (t : Table κ α) e => t.insert (key e) (value e)) t) := by
  induction entries generalizing t with
  | nil => exact .refl t
  | cons e entries ih =>
    obtain ⟨he, hentries⟩ := List.forall_mem_cons.1 hentries
    exact (Keeps.insert t _ he).trans (ih hentries _)

end Table

namespace Frame

/-- What rendering leaves as it was: the argument and the scopes, the text written before, and the
variables, of which only those of iterations and those with names in `bound` may have new values. -/
structure Framed (bound : String → Prop) (f g : Frame) : Prop where
  argument : g.argument = f.argument
  scopes : g.scopes = f.scopes
  text : ∃ written, g.text = f.text ++ written
  nextNumber : f.nextNumber ≤ g.nextNumber
  bindings : Table.Keeps (fun name => bound name ∨ IsVariable name) f.bindings g.bindings

variable {bound : String → Prop} {f g h : Frame}

theorem Framed.refl (f : Frame) : Framed bound f f :=
  ⟨rfl, rfl, ⟨"", String.append_empty.symm⟩, le_rfl, .refl _⟩

theorem Framed.trans (hg : Framed bound f g) (hh : Framed bound g h) : Framed bound f h where
  argument := hh.argument.trans hg.argument
  scopes := hh.scopes.trans hg.scopes
  text := by
    obtain ⟨s, hs⟩ := hg.text
    obtain ⟨t, ht⟩ := hh.text
    exact ⟨s ++ t, by rw [ht, hs, String.append_assoc]⟩
  nextNumber := hg.nextNumber.trans hh.nextNumber
  bindings := hg.bindings.trans hh.bindings

theorem keeps_enter (spec : Loop) (index item : Value) (f : Frame) :
    Table.Keeps (fun name => bound name ∨ IsVariable name) f.bindings (spec.enter index item f).bindings :=
  .foldl_insert _ (fun _ _ => .inr (Loop.isVariable_bindingName _ _)) f.bindings

theorem isKept_framed : IsKept bound (Framed bound) where
  refl := .refl
  trans _ _ _ := .trans
  append _ s := ⟨rfl, rfl, ⟨s, rfl⟩, le_rfl, .refl _⟩
  bind _ _ v hname := ⟨rfl, rfl, ⟨"", String.append_empty.symm⟩, le_rfl, .insert _ v (.inl hname)⟩
  capture h := ⟨h.argument, h.scopes, ⟨"", String.append_empty.symm⟩, h.nextNumber, h.bindings⟩
  leave {spec index item f _} h :=
    ⟨h.argument, rfl, ⟨"", String.append_empty.symm⟩, (Nat.le_succ _).trans h.nextNumber,
      (keeps_enter spec index item f).trans h.bindings⟩

end Frame

theorem Node.framed_render (n : Node) (f : Frame) : Frame.Framed n.Binds f (final (n.render f)) :=
  (relates_render Frame.isKept_framed n n.within_self f).1

theorem Loop.text_bodies (spec : Loop) (body : Rendering Bool) (items : List (Value × Value)) (f : Frame) :
    (final (spec.bodies body items f)).text = f.text := by
  induction items generalizing f with
  | nil => rfl
  | cons entry items ih =>
    cases hbody : body (spec.enter entry.1 entry.2 f) with
    | ok b inner =>
      rw [bodies_of_ok hbody, final_map]
      exact ih _
    | error e inner =>
      rw [bodies_of_error hbody]
      rfl

/-! ### Contexts -/

/-- A frame, whose text is the top one of a stack, and the texts below it, from the top down. -/
structure Context extends Frame where
  below : List String

/-- A step of rendering on a stack of texts. -/
abbrev Stacked := EStateM TemplateError Context

namespace Context

variable {α β : Type}

/-- Runs a step on the frame; the texts below wait. -/
def onTop (step : Rendering α) : Stacked α := fun c =>
  match step c.toFrame with
  | .ok a f => .ok a ⟨f, c.below⟩
  | .error e f => .error e ⟨f, c.below⟩

/-- Puts an empty text on the stack. -/
def push (c : Context) : Context := { c with text := "", below := c.text :: c.below }

/-- Takes a text off the stack. -/
def pop (c : Context) : Context := { c with text := c.below.headD "", below := c.below.tail }

/-- Runs a step on a new text on the stack, takes the text off and hands it over. -/
def capture (step : Stacked α) : Stacked (α × String) := fun c =>
  match step c.push with
  | .ok a d => .ok (a, d.text) d.pop
  | .error e d => .error e d.pop

/-- Puts a scope on the scopes. -/
def pushScope (scope : Table String Value) (c : Context) : Context := { c with scopes := scope :: c.scopes }

/-- Takes a scope off the scopes. -/
def popScope (c : Context) : Context := { c with scopes := c.scopes.tail }

/-- Puts a scope on the scopes, runs a step, and takes a scope off. -/
def within (scope : Table String Value) (step : Stacked α) : Stacked α := fun c =>
  match step (c.pushScope scope) with
  | .ok a d => .ok a d.popScope
  | .error e d => .error e d.popScope

end Context

open Context

/-- The bodies of a loop for each item, rendered on a stack. -/
def Loop.bodiesOn (spec : Loop) (body : Stacked Bool) : List (Value × Value) → Stacked (List String)
  | [] => pure []
  | (index, item) :: rest => do
    let number ← onTop (modifyGet Frame.takeNumber)
    onTop (spec.bindNames number index item)
    let (_, text) ← Context.within (Table.ofEntries (spec.names index item)) (Context.capture body)
    let others ← bodiesOn spec body rest
    return spec.withText number text others

namespace Node

mutual
/-- Renders a template on a stack of texts. -/
def renderOn : Node → Stacked Bool
  | text s => do
    onTop (write s)
    return true
  | conditional cond body => do
    if ← onTop (test cond) then
      discard (renderOn body)
      return true
    else return false
  | choose whens none => renderFirstOn whens
  | choose whens (some otherwise) => do
    if ← renderFirstOn whens then return true
    else
      discard (renderOn otherwise)
      return true
  | loop spec body => do
    let items ← onTop (Rendering.calculate (.collection spec.collection.source) spec.collection.evalItems)
    let texts ← spec.bodiesOn (renderOn body) items
    if texts.isEmpty then return true
    else
      onTop (write (spec.opening ++ spec.separator.intercalate texts ++ spec.closing))
      return true
  | clause spec body => do
    let (selected, inner) ← Context.capture (renderOn body)
    onTop (write (String.ofList (spec.apply inner.toList)))
    return selected
  | bind name value => do
    let v ← onTop (Rendering.calculate (.evaluation value.source) value.eval)
    onTop (modify fun f => f.bind name v)
    return true
  | composite children => do
    renderAllOn children
    return true

/-- Renders the first part whose test holds on a stack of texts. -/
def renderFirstOn : List (Formula × Node) → Stacked Bool
  | [] => return false
  | (cond, body) :: rest => do
    if ← onTop (test cond) then
      discard (renderOn body)
      return true
    else renderFirstOn rest

/-- Renders templates one after the other on a stack of texts. -/
def renderAllOn : List Node → Stacked Unit
  | [] => return ()
  | n :: rest => do
    discard (renderOn n)
    renderAllOn rest
end

end Node

/-! ### Frames and stacks -/

namespace Context

variable {α β : Type}

theorem onTop_of_ok {step : Rendering α} {c : Context} {a : α} {f : Frame} (h : step c.toFrame = .ok a f) :
    onTop step c = .ok a ⟨f, c.below⟩ := by
  rw [onTop, h]

theorem onTop_of_error {step : Rendering α} {c : Context} {e : TemplateError} {f : Frame}
    (h : step c.toFrame = .error e f) : onTop step c = .error e ⟨f, c.below⟩ := by
  rw [onTop, h]

theorem onTop_pure (a : α) : onTop (pure a) = pure a := rfl

theorem onTop_bind (step : Rendering α) (next : α → Rendering β) :
    onTop (step >>= next) = onTop step >>= fun a => onTop (next a) := by
  funext c
  cases hstep : step c.toFrame with
  | ok a f =>
    rw [bind_of_ok (onTop_of_ok hstep)]
    show onTop (step >>= next) c = onTop (next a) ⟨f, c.below⟩
    rw [onTop, bind_of_ok hstep, onTop]
  | error e f => rw [bind_of_error (onTop_of_error hstep), onTop_of_error (bind_of_error hstep _)]

theorem onTop_map (u : α → β) (step : Rendering α) : onTop (u <$> step) = u <$> onTop step := by
  funext c
  show onTop (EStateM.map u step) c = EStateM.map u (onTop step) c
  rw [onTop, EStateM.map, EStateM.map, onTop]
  cases step c.toFrame <;> rfl

theorem onTop_discard (step : Rendering α) : onTop (discard step) = discard (onTop step) := onTop_map _ step

theorem capture_onTop (step : Rendering α) : capture (onTop step) = onTop (Rendering.capture step) := by
  funext c
  cases hstep : step { c.toFrame with text := "" } with
  | ok a f =>
    rw [onTop_of_ok (Rendering.capture_eq_ok.2 ⟨f, hstep, rfl, rfl⟩), capture, onTop_of_ok hstep]
    rfl
  | error e f =>
    rw [onTop_of_error (Rendering.capture_of_error hstep), capture, onTop_of_error hstep]
    rfl

theorem popScope_of_scopes {scope : Table String Value} {scopes : List (Table String Value)} {f : Frame}
    (h : f.scopes = scope :: scopes) (below : List String) :
    popScope ⟨f, below⟩ = ⟨{ f with scopes }, below⟩ := by
  rw [popScope, h, List.tail_cons]

theorem within_onTop (scope : Table String Value) {step : Rendering α} {E : TemplateError → Prop}
    (hscopes : Relates (fun f g => g.scopes = f.scopes) E step) :
    within scope (onTop step) = onTop (Rendering.within scope step) := by
  funext c
  cases hstep : step (c.pushScope scope).toFrame with
  | ok a f =>
    have h : f.scopes = scope :: c.scopes := hscopes.of_ok hstep
    rw [onTop_of_ok (Rendering.within_eq_ok.2 ⟨f, hstep, rfl⟩), within, onTop_of_ok hstep]
    exact congrArg (EStateM.Result.ok a) (popScope_of_scopes h c.below)
  | error e f =>
    have h : f.scopes = scope :: c.scopes := (hscopes.of_error hstep).1
    rw [onTop_of_error (Rendering.within_of_error hstep), within, onTop_of_error hstep]
    exact congrArg (EStateM.Result.error e) (popScope_of_scopes h c.below)

end Context

theorem Frame.isKept_scopes : IsKept (fun _ => True) fun f g => g.scopes = f.scopes where
  refl _ := rfl
  trans _ _ _ hg hh := hh.trans hg
  append _ _ := rfl
  bind _ _ _ _ := rfl
  capture h := h
  leave _ := rfl

theorem Loop.bodiesOn_eq (spec : Loop) {body : Rendering Bool} {E : TemplateError → Prop}
    (hbody : Relates (fun f g => g.scopes = f.scopes) E body) (items : List (Value × Value)) :
    spec.bodiesOn (onTop body) items = onTop (spec.bodies body items) := by
  induction items with
  | nil => rfl
  | cons entry items ih =>
    have hcapture := Rendering.relates_capture Frame.isKept_scopes hbody
    rw [bodiesOn, bodies, onTop_bind, capture_onTop, within_onTop _ hcapture, ih]
    refine bind_congr fun number => ?_
    rw [onTop_bind]
    refine bind_congr fun _ => ?_
    rw [onTop_bind]
    refine bind_congr fun result => ?_
    rw [onTop_bind]
    refine bind_congr fun others => ?_
    rw [withText]
    split <;> rfl

namespace Node

theorem relates_scopes (n : Node) : Relates (fun f g => g.scopes = f.scopes) n.Fails n.render :=
  relates_render Frame.isKept_scopes n ⟨fun _ _ => trivial, fun _ => id⟩

theorem renderFirstOn_eq {whens : List (Formula × Node)}
    (hwhens : ∀ w ∈ whens, w.2.renderOn = onTop w.2.render) :
    renderFirstOn whens = onTop (renderFirst whens) := by
  induction whens with
  | nil => rw [renderFirstOn, renderFirst, onTop_pure]
  | cons w whens ih =>
    obtain ⟨hw, hwhens⟩ := List.forall_mem_cons.1 hwhens
    rw [renderFirstOn, renderFirst, onTop_bind, hw, ih hwhens]
    refine bind_congr fun holds => ?_
    split
    · rw [onTop_bind, onTop_discard, onTop_pure]
    · rfl

theorem renderAllOn_eq {children : List Node} (hchildren : ∀ n ∈ children, n.renderOn = onTop n.render) :
    renderAllOn children = onTop (renderAll children) := by
  induction children with
  | nil => rw [renderAllOn, renderAll, onTop_pure]
  | cons n children ih =>
    obtain ⟨hn, hchildren⟩ := List.forall_mem_cons.1 hchildren
    rw [renderAllOn, renderAll, onTop_bind, hn, ih hchildren, onTop_discard]

/-- Rendering on a stack is rendering on the frame on top of it. -/
theorem renderOn_eq (n : Node) : n.renderOn = onTop n.render := by
  induction n with
  | text s => rw [renderOn, render, onTop_bind]; rfl
  | conditional cond body ih =>
    rw [renderOn, render, onTop_bind, ih]
    refine bind_congr fun holds => ?_
    split
    · rw [onTop_bind, onTop_discard]; rfl
    · rfl
  | choose whens otherwise ihwhens ihotherwise =>
    have hwhens : renderFirstOn whens = onTop (renderFirst whens) := renderFirstOn_eq ihwhens
    cases otherwise with
    | none => rw [renderOn, render, hwhens]
    | some n =>
      rw [renderOn, render, onTop_bind, hwhens, ihotherwise n rfl]
      refine bind_congr fun taken => ?_
      split
      · rfl
      · rw [onTop_bind, onTop_discard]; rfl
  | loop spec body ih =>
    rw [renderOn, render, onTop_bind, ih]
    refine bind_congr fun items => ?_
    rw [onTop_bind, spec.bodiesOn_eq body.relates_scopes]
    refine bind_congr fun texts => ?_
    split
    · rfl
    · rw [onTop_bind]; rfl
  | clause spec body ih =>
    rw [renderOn, render, onTop_bind, ih, capture_onTop]
    refine bind_congr fun result => ?_
    rw [onTop_bind]
    rfl
  | bind name value =>
    rw [renderOn, render, onTop_bind]
    refine bind_congr fun v => ?_
    rw [onTop_bind]
    rfl
  | composite children ih =>
    rw [renderOn, render, onTop_bind, renderAllOn_eq ih]
    rfl

end Node

/-! ### What rendering leaves of a stack -/

namespace Context

/-- What rendering a template leaves as it was in a context. The texts below the top one are the same, as
many as before. -/
structure Framed (n : Node) (c d : Context) : Prop extends Frame.Framed n.Binds c.toFrame d.toFrame where
  below : d.below = c.below

theorem final_onTop {α : Type} (step : Rendering α) (c : Context) :
    final (onTop step c) = ⟨final (step c.toFrame), c.below⟩ := by
  rw [onTop]
  cases step c.toFrame <;> rfl

theorem fault?_onTop {α : Type} (step : Rendering α) (c : Context) :
    fault? (onTop step c) = fault? (step c.toFrame) := by
  rw [onTop]
  cases step c.toFrame <;> rfl

end Context

namespace Node

/-- A loop or a clause. -/
def IsEnclosing : Node → Prop
  | loop .. => True
  | clause .. => True
  | _ => False

theorem text_of_render_loop_error {spec : Loop} {body : Node} {f g : Frame} {e : TemplateError}
    (h : (loop spec body).render f = .error e g) : g.text = f.text := by
  rw [render] at h
  rcases bind_eq_error.1 h with hitems | ⟨items, f₁, hitems, hloop⟩
  · obtain ⟨_, -, -, rfl⟩ := Rendering.calculate_eq_error.1 hitems
    rfl
  obtain ⟨-, rfl⟩ := Rendering.calculate_eq_ok.1 hitems
  rcases bind_eq_error.1 hloop with hbodies | ⟨texts, f₂, hbodies, hlast⟩
  · -- the loop writes only when all its iterations have ended
    have htext := spec.text_bodies body.render items f₁
    rw [hbodies] at htext
    exact htext
  · split at hlast <;> cases hlast

theorem text_of_render_clause_error {spec : Clause} {body : Node} {f g : Frame} {e : TemplateError}
    (h : (clause spec body).render f = .error e g) : g.text = f.text := by
  rw [render] at h
  cases hbody : body.render { f with text := "" } with
  | ok b inner =>
    rw [bind_of_ok (Rendering.capture_eq_ok.2 ⟨inner, hbody, rfl, rfl⟩)] at h
    cases h
  | error cause inner =>
    rw [bind_of_error (Rendering.capture_of_error hbody)] at h
    cases h
    rfl

theorem text_of_render_error {n : Node} (hn : n.IsEnclosing) {f g : Frame} {e : TemplateError}
    (h : n.render f = .error e g) : g.text = f.text := by
  cases n with
  | loop => exact text_of_render_loop_error h
  | clause => exact text_of_render_clause_error h
  | text | conditional | choose | bind | composite => exact hn.elim

/-- Rendering on a stack is rendering on the frame on top of it, and it leaves the stack framed whether it
succeeds or fails. A loop or a clause that fails leaves also the top text as it was. -/
theorem renderOn_framed (n : Node) (c : Context) :
    n.renderOn c = onTop n.render c ∧ Context.Framed n c (final (n.renderOn c)) ∧
      (n.IsEnclosing → fault? (n.renderOn c) ≠ none → (final (n.renderOn c)).text = c.text) := by
  rw [renderOn_eq, final_onTop, fault?_onTop]
  refine ⟨rfl, ⟨n.framed_render c.toFrame, rfl⟩, fun hn hfault => ?_⟩
  cases hrun : n.render c.toFrame with
  | ok b g =>
    rw [hrun] at hfault
    exact absurd rfl hfault
  | error e g => exact text_of_render_error hn hrun

end Node

end DynamicSql
