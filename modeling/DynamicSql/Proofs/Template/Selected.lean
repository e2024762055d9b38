import DynamicSql.Proofs.Template.Render

/-!
# What a rendering tells of its selection

A part of a template is selected where the tests in it say so: a conditional part by its own test, a choice by those
of its branches, a clause if its body is, and templates one after the other if one of them is, at any depth
(`Node.selects`). Rendering tells just this of every template but a group, which always tells that it is selected
(`Node.selected_eq_selects_iff`).
-/

namespace DynamicSql

open Step

/-- Whether the test holds on the names of the frame. -/
def Formula.holds (cond : Formula) (f : Frame) : Bool := (cond.evalTruth f.lookup).toOption.getD false

theorem Formula.holds_of_evalTruth {cond : Formula} {f : Frame} {b : Bool} (h : cond.evalTruth f.lookup = .ok b) :
    cond.holds f = b := by
  rw [holds, h]
  rfl

namespace Node

mutual
/-- Whether something of the template is selected when it is rendered in a frame. -/
def selects : Node → Frame → Bool
  | conditional cond _, f => cond.holds f
  | choose whens otherwise, f => whens.any (·.1.holds f) || otherwise.isSome
  | clause _ body, f => selects body { f with text := "" }
  | composite children, f => selectsAny children f
  | text _, _ => true
  | loop .., _ => true
  | bind .., _ => true

/-- Whether one of the templates selects something when they are rendered one after the other. -/
def selectsAny : List Node → Frame → Bool
  | [], _ => false
  | n :: rest, f => selects n f || selectsAny rest (final (n.render f))
end

/-- Whether the template is several templates one after the other, or a clause around them. -/
def isGroup : Node → Bool
  | composite _ => true
  | clause _ body => body.isGroup
  | text _ => false
  | conditional .. => false
  | choose .. => false
  | loop .. => false
  | bind .. => false

variable {n : Node} {f g : Frame} {selected : Bool}

theorem taken_of_renderFirst {whens : List (Formula × Node)} {taken : Bool} (h : renderFirst whens f = .ok taken g) :
    taken = whens.any (·.1.holds f) := by
  induction whens with
  | nil => exact (of_renderFirst_nil h).1
  | cons w whens ih =>
    rw [List.any_cons]
    rcases of_renderFirst_cons h with ⟨htest, hrest⟩ | ⟨htest, htaken, -⟩
    · rw [Formula.holds_of_evalTruth htest, Bool.false_or, ih hrest]
    · rw [Formula.holds_of_evalTruth htest, Bool.true_or, htaken]

theorem selected_of_render (h : n.render f = .ok selected g) : selected = (n.selects f || n.isGroup) := by
  induction n generalizing f g selected with
  | text s =>
    rw [render_text] at h
    cases h
    rfl
  | conditional cond body _ =>
    rw [selects, isGroup, Bool.or_false]
    rcases of_render_conditional h with ⟨htest, hselected, -⟩ | ⟨htest, hselected, -⟩
    · rw [Formula.holds_of_evalTruth htest, hselected]
    · rw [Formula.holds_of_evalTruth htest, hselected]
  | choose whens otherwise _ _ =>
    rw [selects, isGroup, Bool.or_false]
    rcases of_render_choose h with ⟨hfirst, hselected⟩ | ⟨hfirst, hselected⟩
    · rw [← taken_of_renderFirst hfirst, hselected, Bool.true_or]
    · rw [← taken_of_renderFirst hfirst, Bool.false_or]
      cases otherwise with
      | none => exact hselected.1
      | some n => exact hselected.1
  | loop spec body _ => exact (of_render_loop h).1
  | clause spec body ih =>
    obtain ⟨inner, hbody, -⟩ := of_render_clause h
    exact ih hbody
  | bind name value => exact (of_render_bind h).1
  | composite children _ =>
    rw [isGroup, Bool.or_true]
    exact (of_render_composite h).1

/-- Rendering tells whether something is selected, but for a group that selects nothing: a group always tells that
something is. A clause tells what its body does. -/
theorem selected_eq_selects_iff (h : n.render f = .ok selected g) :
    (selected = n.selects f ↔ (n.isGroup = true → n.selects f = true)) ∧
      (n.isGroup = true → selected = true) ∧
      ∀ spec body, n = clause spec body → ∃ inner, body.render { f with text := "" } = .ok selected inner := by
  have hselected := selected_of_render h
  refine ⟨?_, fun hgroup => by rw [hselected, hgroup, Bool.or_true], ?_⟩
  · rw [hselected]
    cases n.selects f <;> cases n.isGroup <;> decide
  · rintro spec body rfl
    obtain ⟨inner, hbody, -⟩ := of_render_clause h
    exact ⟨inner, hbody⟩

/-- A part that is selected or not whatever the frame is. -/
def constantly (holds : Bool) (s : String) : Node :=
  conditional ⟨if holds then "true" else "false", .literal (.boolean holds)⟩ (text s)

theorem render_constantly_false (s : String) (f : Frame) : (constantly false s).render f = .ok false f :=
  render_conditional_of_false rfl _

theorem render_constantly_true (s : String) (f : Frame) : (constantly true s).render f = .ok true (f.append s) :=
  render_conditional_of_true rfl (render_text s f)

theorem selected_eq_selects_iff_secondOfTwo :
    ∃ g, (clause .conditions (composite [constantly false "a = 1", constantly true "b = 2"])).render
        (.start .null none) = .ok true g ∧
      true = (clause .conditions (composite [constantly false "a = 1", constantly true "b = 2"])).selects
        (.start .null none) := by
  have hchildren : ∀ f, renderAll [constantly false "a = 1", constantly true "b = 2"] f = .ok () (f.append "b = 2") := by
    intro f
    rw [renderAll_cons (render_constantly_false _ f), renderAll_cons (render_constantly_true _ f), renderAll_nil]
  have hrender := fun spec => @render_clause (.start .null none) _ _ spec _ (render_composite (hchildren _))
  obtain ⟨hiff, -⟩ := selected_eq_selects_iff (hrender .conditions)
  exact ⟨_, hrender .conditions, hiff.2 fun _ => rfl⟩

/-- No templates at all, and a clause around one that is not selected, tell that something is. -/
theorem selected_ne_selects_empty :
    (composite []).render (.start .null none) = .ok true (.start .null none) ∧
      (composite []).selects (.start .null none) = false ∧
      (∃ g, (clause .conditions (composite [constantly false "a = 1"])).render (.start .null none) = .ok true g) ∧
      (clause .conditions (composite [constantly false "a = 1"])).selects (.start .null none) = false := by
  have hchildren : ∀ f, renderAll [constantly false "a = 1"] f = .ok () f := fun f => by
    rw [renderAll_cons (render_constantly_false _ f), renderAll_nil]
  exact ⟨render_composite (renderAll_nil _), rfl, ⟨_, render_clause (render_composite (hchildren _))⟩, rfl⟩

end Node

end DynamicSql
