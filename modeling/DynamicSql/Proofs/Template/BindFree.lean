import DynamicSql.Proofs.Template.Kept
import DynamicSql.Proofs.Template.Scope

/-!
# Templates that bind no variables

A template without variables of its own adds only the variables of iterations while it is rendered. A
relation between frames that every step of rendering keeps (`Frame.IsStable`) holds between the frame in
which such a template is rendered and the frame that comes of it (`BindFree.related`), and also on the way
to each place outside the loops and from there on (`BindFree.related_of_reaches`). So a name is bound to the
same at such a place as at the end, unless it is the variable of an iteration that comes later
(`BindFree.of_reaches_start`).
-/

namespace DynamicSql

/-- A template of texts, conditional parts, choices, loops, clauses and composites. -/
inductive Node.BindFree : Node → Prop
  | text (s : String) : BindFree (.text s)
  | conditional {test : Formula} {body : Node} : BindFree body → BindFree (.conditional test body)
  | choose {whens : List (Formula × Node)} {otherwise : Option Node} : (∀ w ∈ whens, BindFree w.2) →
      (∀ n ∈ otherwise, BindFree n) → BindFree (.choose whens otherwise)
  | loop {spec : Loop} {body : Node} : BindFree body → BindFree (.loop spec body)
  | clause {spec : Clause} {body : Node} : BindFree body → BindFree (.clause spec body)
  | composite {children : List Node} : (∀ n ∈ children, BindFree n) → BindFree (.composite children)

/-! ### Relations that rendering keeps -/

namespace Frame

/-- A relation between frames that the steps of rendering keep, whatever text they write. -/
structure IsStable (R : Frame → Frame → Prop) : Prop where
  refl : ∀ f, R f f
  trans : ∀ {f g h}, R f g → R g h → R f h
  withText : ∀ f s, R f { f with text := s }
  leave : ∀ {spec : Loop} {index item : Value} {f g}, R (spec.enter index item f) g → R f (Loop.leave f g)

theorem IsStable.isKept {R : Frame → Frame → Prop} (hR : IsStable R) : IsKept (fun _ => False) R where
  refl := hR.refl
  trans _ _ _ := hR.trans
  append f _ := hR.withText f _
  bind _ _ _ h := h.elim
  capture h := hR.trans (hR.withText _ "") (hR.trans h (hR.withText _ _))
  leave := hR.leave

theorem isStable_grows : IsStable Grows := ⟨.refl, .trans, .withText, .leave⟩

theorem isStable_argument : IsStable fun f g => g.argument = f.argument where
  refl _ := rfl
  trans hg hh := hh.trans hg
  withText _ _ := rfl
  leave h := h

/-- The variables of iterations that are bound have been numbered. -/
def Numbered (f : Frame) : Prop :=
  ∀ base number, f.bindings.find? (Loop.bindingName base number) ≠ none → number < f.nextNumber

variable {f g : Frame}

theorem numbered_start (argument : Value) (databaseId : Option String) :
    (start argument databaseId).Numbered := by
  intro base number hbound
  have hargument : Loop.bindingName base number ≠ argumentKey :=
    (Loop.bindingName_ne_of_free (by decide) number).symm
  have hdatabase : Loop.bindingName base number ≠ databaseIdKey :=
    (Loop.bindingName_ne_of_free (by decide) number).symm
  refine absurd ?_ hbound
  show Table.find? (Table.insert (Table.insert [] argumentKey _) databaseIdKey _) _ = none
  rw [Table.find?_insert_of_ne _ _ hdatabase, Table.find?_insert_of_ne _ _ hargument]
  rfl

theorem Numbered.enter (h : f.Numbered) (spec : Loop) (index item : Value) :
    (spec.enter index item f).Numbered := by
  intro base number hbound
  show number < f.nextNumber + 1
  by_cases hnumber : number = f.nextNumber
  · omega
  · have hold : (spec.enter index item f).bindings.find? (Loop.bindingName base number) =
        f.bindings.find? (Loop.bindingName base number) :=
      Loop.find?_bindIteration_of_ne (fun base' heq => hnumber (Loop.bindingName_inj heq).2) f.bindings
    rw [hold] at hbound
    have hlt := h base number hbound
    omega

theorem isStable_numbered : IsStable fun f g => f.Numbered → g.Numbered where
  refl _ h := h
  trans hg hh h := hh (hg h)
  withText _ _ h := h
  leave hg h := hg (h.enter _ _ _)

theorem Grows.find?_eq (h : Grows f g) (hf : f.Numbered) {name : String}
    (hname : IsVariable name → g.bindings.contains name = true → f.bindings.contains name = true) :
    g.bindings.find? name = f.bindings.find? name := by
  by_cases hbound : f.bindings.contains name = true
  · apply h.bindings name
    rintro base number hnumber rfl
    have hlt := hf base number (Option.isSome_iff_ne_none.1 hbound)
    omega
  · by_cases hvariable : IsVariable name
    · have hlater : ¬ g.bindings.contains name = true := fun hg => hbound (hname hvariable hg)
      rw [Table.contains, Option.not_isSome_iff_eq_none] at hbound hlater
      rw [hbound, hlater]
    · apply h.bindings name
      rintro base number - rfl
      exact hvariable (Loop.isVariable_bindingName base number)

end Frame

open DynamicSql.Frame Step

variable {R : Frame → Frame → Prop} {f g h : Frame}

namespace Node

theorem BindFree.not_binds {n : Node} (hn : n.BindFree) (name : String) : ¬ n.Binds name := by
  rintro ⟨value, hoccurs⟩
  induction hn with
  | text => cases hoccurs
  | conditional _ ih =>
    cases hoccurs with
    | conditional hoccurs => exact ih hoccurs
  | choose _ _ ihwhens ihotherwise =>
    cases hoccurs with
    | when hw hoccurs => exact ihwhens _ hw hoccurs
    | otherwise hoccurs => exact ihotherwise _ rfl hoccurs
  | loop _ ih =>
    cases hoccurs with
    | loop hoccurs => exact ih hoccurs
  | clause _ ih =>
    cases hoccurs with
    | clause hoccurs => exact ih hoccurs
  | composite _ ih =>
    cases hoccurs with
    | composite hn hoccurs => exact ih _ hn hoccurs

theorem BindFree.relates (hR : IsStable R) {n : Node} (hn : n.BindFree) : Relates R n.Fails n.render :=
  relates_render hR.isKept n ⟨hn.not_binds, fun _ => id⟩

/-- Rendering a template that binds nothing keeps what its steps keep. -/
theorem BindFree.related (hR : IsStable R) {n : Node} (hn : n.BindFree) {b : Bool}
    (h : n.render f = .ok b g) : R f g :=
  (hn.relates hR).of_ok h

theorem related_of_renderAll (hR : IsStable R) {children : List Node}
    (hchildren : ∀ n ∈ children, n.BindFree) {u : Unit} (h : renderAll children f = .ok u g) : R f g :=
  (relates_renderAll (E := fun _ => True) hR.isKept fun n hn =>
    relates_render hR.isKept n ⟨(hchildren n hn).not_binds, fun _ _ => trivial⟩).of_ok h

/-! ### Places outside the loops -/

/-- Rendering the template in the frame `f` comes to a part outside the loops in the frame `h`: the parts
that are taken and rendered on the way are those that rendering takes. -/
inductive Reaches : Node → Frame → Frame → Prop
  | here (n : Node) (f : Frame) : Reaches n f f
  | conditional {test : Formula} {body : Node} {f h : Frame} : test.evalTruth f.lookup = .ok true →
      Reaches body f h → Reaches (.conditional test body) f h
  | when {before after : List (Formula × Node)} {test : Formula} {body : Node} {otherwise : Option Node}
      {f h : Frame} : renderFirst before f = .ok false f → test.evalTruth f.lookup = .ok true →
      Reaches body f h → Reaches (.choose (before ++ (test, body) :: after) otherwise) f h
  | otherwise {whens : List (Formula × Node)} {n : Node} {f h : Frame} :
      renderFirst whens f = .ok false f → Reaches n f h → Reaches (.choose whens (some n)) f h
  | clause {spec : Clause} {body : Node} {f h : Frame} : Reaches body { f with text := "" } h →
      Reaches (.clause spec body) f h
  | composite {before after : List Node} {n : Node} {f f' h : Frame} : renderAll before f = .ok () f' →
      Reaches n f' h → Reaches (.composite (before ++ n :: after)) f h

theorem of_renderFirst_append {before rest : List (Formula × Node)} {b : Bool}
    (hbefore : renderFirst before f = .ok false f) (h : renderFirst (before ++ rest) f = .ok b g) :
    renderFirst rest f = .ok b g := by
  induction before with
  | nil => exact h
  | cons w before ih =>
    rcases of_renderFirst_cons hbefore with ⟨hfalse, hbefore⟩ | ⟨-, hselected, -⟩
    · rcases of_renderFirst_cons h with ⟨-, h⟩ | ⟨htrue, -⟩
      · exact ih hbefore h
      · cases hfalse.symm.trans htrue
    · cases hselected

theorem of_render_when {before after : List (Formula × Node)} {test : Formula} {body : Node}
    {otherwise : Option Node} {b : Bool} (hbefore : renderFirst before f = .ok false f)
    (htrue : test.evalTruth f.lookup = .ok true)
    (h : (choose (before ++ (test, body) :: after) otherwise).render f = .ok b g) :
    ∃ b, body.render f = .ok b g := by
  rcases of_render_choose h with ⟨hfirst, -⟩ | ⟨hfirst, -⟩
  · rcases of_renderFirst_cons (of_renderFirst_append hbefore hfirst) with ⟨hfalse, -⟩ | ⟨-, -, hbody⟩
    · cases htrue.symm.trans hfalse
    · exact hbody
  · rcases of_renderFirst_cons (of_renderFirst_append hbefore hfirst) with ⟨hfalse, -⟩ | ⟨-, hselected, -⟩
    · cases htrue.symm.trans hfalse
    · cases hselected

theorem of_render_otherwise {whens : List (Formula × Node)} {n : Node} {b : Bool}
    (hfirst : renderFirst whens f = .ok false f) (h : (choose whens (some n)).render f = .ok b g) :
    ∃ b, n.render f = .ok b g := by
  rcases of_render_choose h with ⟨htaken, -⟩ | ⟨-, -, hbody⟩
  · cases hfirst.symm.trans htaken
  · exact hbody

theorem of_renderAll_append {before rest : List Node} {u : Unit}
    (hbefore : renderAll before f = .ok () h) (hall : renderAll (before ++ rest) f = .ok u g) :
    renderAll rest h = .ok u g := by
  induction before generalizing f with
  | nil =>
    obtain rfl := of_renderAll_nil hbefore
    exact hall
  | cons n before ih =>
    obtain ⟨_, f₁, hn, hbefore⟩ := of_renderAll_cons hbefore
    obtain ⟨_, f₂, hn', hall⟩ := of_renderAll_cons hall
    cases hn.symm.trans hn'
    exact ih hbefore hall

/-- What the steps of rendering keep is kept up to each place outside the loops, and from there on. -/
theorem BindFree.related_of_reaches (hR : IsStable R) {n : Node} (hn : n.BindFree)
    (hreaches : n.Reaches f h) {b : Bool} (hrender : n.render f = .ok b g) : R f h ∧ R h g := by
  induction hreaches generalizing g b with
  | here n f => exact ⟨hR.refl f, hn.related hR hrender⟩
  | conditional htrue _ ih =>
    cases hn with
    | conditional hbody =>
      rcases of_render_conditional hrender with ⟨hfalse, -⟩ | ⟨-, -, b, hrender⟩
      · cases htrue.symm.trans hfalse
      · exact ih hbody hrender
  | when hbefore htrue _ ih =>
    cases hn with
    | choose hwhens _ =>
      obtain ⟨b, hrender⟩ := of_render_when hbefore htrue hrender
      exact ih (hwhens _ (List.mem_append_right _ (.head _))) hrender
  | otherwise hfirst _ ih =>
    cases hn with
    | choose _ hotherwise =>
      obtain ⟨b, hrender⟩ := of_render_otherwise hfirst hrender
      exact ih (hotherwise _ rfl) hrender
  | clause _ ih =>
    cases hn with
    | clause hbody =>
      obtain ⟨inner, hinner, rfl⟩ := of_render_clause hrender
      obtain ⟨hbefore, hafter⟩ := ih hbody hinner
      exact ⟨hR.trans (hR.withText _ "") hbefore, hR.trans hafter (hR.withText inner _)⟩
  | @composite before after n f₀ f₁ _ hbefore _ ih =>
    cases hn with
    | composite hchildren =>
      obtain ⟨b, f₂, hn, hafter⟩ :=
        of_renderAll_cons (of_renderAll_append hbefore (of_render_composite hrender).2)
      obtain ⟨hhere, hthere⟩ := ih (hchildren n (List.mem_append_right _ (.head _))) hn
      have hstart : R f₀ f₁ :=
        related_of_renderAll hR (fun m hm => hchildren m (List.mem_append_left _ hm)) hbefore
      have hend : R f₂ g :=
        related_of_renderAll hR (fun m hm => hchildren m (List.mem_append_right _ (.tail _ hm))) hafter
      exact ⟨hR.trans hstart hhere, hR.trans hthere hend⟩

theorem BindFree.of_reaches_start {n : Node} (hn : n.BindFree) {argument : Value}
    {databaseId : Option String} {rendered : Rendered}
    (hrender : n.renderFor argument databaseId = .ok rendered)
    (hreaches : n.Reaches (.start argument databaseId) f) :
    f.argument = argument ∧ f.scopes = [] ∧ ∀ name,
      (IsVariable name → rendered.bindings.contains name = true → f.bindings.contains name = true) →
      rendered.bindings.find? name = f.bindings.find? name := by
  obtain ⟨b, g, hrun, rfl⟩ := renderFor_eq_ok.1 hrender
  obtain ⟨hbefore, hafter⟩ := hn.related_of_reaches isStable_grows hreaches hrun
  have hargument := (hn.related_of_reaches isStable_argument hreaches hrun).1
  have hnumbered := (hn.related_of_reaches isStable_numbered hreaches hrun).1
    (numbered_start argument databaseId)
  exact ⟨hargument, hbefore.scopes, fun name hname => hafter.find?_eq hnumbered hname⟩

end Node

end DynamicSql
