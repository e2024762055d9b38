import DynamicSql.Proofs.Template.Scope

/-!
# The course of a rendering

Rendering visits the parts of a template one after the other, the body of a loop once for each item, and each
visit begins in the frame that the visits before it have led to. A variable that templates bind holds what the
last visit that bound it gave it, in whichever iteration this was (`Node.settles_render`).
-/

namespace DynamicSql

open Step

/-- A part of a template that is rendered, and the frame in which its rendering begins. -/
structure Visit where
  part : Node
  frame : Frame

/-- The visits of the iterations of a loop, given the visits of its body. -/
def Loop.visits (spec : Loop) (body : Rendering Bool) (inner : Frame → List Visit) :
    List (Value × Value) → Frame → List Visit
  | [], _ => []
  | (index, item) :: rest, f =>
    inner (spec.enter index item f) ++
      match body (spec.enter index item f) with
      | .ok _ g => spec.visits body inner rest (leave f g)
      | .error .. => []

theorem Loop.visits_cons {spec : Loop} {body : Rendering Bool} {inner : Frame → List Visit}
    {index item : Value} {rest : List (Value × Value)} {f g : Frame} {b : Bool}
    (h : body (spec.enter index item f) = .ok b g) :
    spec.visits body inner ((index, item) :: rest) f =
      inner (spec.enter index item f) ++ spec.visits body inner rest (leave f g) := by
  rw [visits, h]

namespace Node

mutual
/-- The visits of rendering a template in a frame, as far as it succeeds. -/
def visits : Node → Frame → List Visit
  | text s, f => [⟨text s, f⟩]
  | conditional cond body, f =>
    ⟨conditional cond body, f⟩ ::
      match cond.evalTruth f.lookup with
      | .ok true => visits body f
      | _ => []
  | choose whens none, f => ⟨choose whens none, f⟩ :: visitsFirst whens f
  | choose whens (some otherwise), f =>
    ⟨choose whens (some otherwise), f⟩ ::
      (visitsFirst whens f ++
        match renderFirst whens f with
        | .ok false g => visits otherwise g
        | _ => [])
  | loop spec body, f =>
    ⟨loop spec body, f⟩ ::
      match spec.collection.evalItems f.lookup with
      | .ok items => spec.visits (render body) (visits body) items f
      | .error _ => []
  | clause spec body, f => ⟨clause spec body, f⟩ :: visits body { f with text := "" }
  | bind name value, f => [⟨bind name value, f⟩]
  | composite children, f => ⟨composite children, f⟩ :: visitsAll children f

/-- The visits of the first part whose test holds. -/
def visitsFirst : List (Formula × Node) → Frame → List Visit
  | [], _ => []
  | (cond, body) :: rest, f =>
    match cond.evalTruth f.lookup with
    | .ok true => visits body f
    | .ok false => visitsFirst rest f
    | .error _ => []

/-- The visits of templates that are rendered one after the other. -/
def visitsAll : List Node → Frame → List Visit
  | [], _ => []
  | n :: rest, f =>
    visits n f ++
      match render n f with
      | .ok _ g => visitsAll rest g
      | .error .. => []
end

end Node

/-! ### What is bound last -/

/-- What a visit binds the name to, if it does. -/
def Visit.bound? (name : String) (w : Visit) : Option Value :=
  match w.part with
  | .bind name' value => if name' = name then (value.eval w.frame.lookup).toOption else none
  | _ => none

/-- What the name is bound to last. -/
def lastBound? (name : String) (ws : List Visit) : Option Value := (ws.filterMap (Visit.bound? name)).getLast?

variable {name : String}

theorem lastBound?_append (vs ws : List Visit) :
    lastBound? name (vs ++ ws) = (lastBound? name ws).or (lastBound? name vs) := by
  rw [lastBound?, List.filterMap_append, List.getLast?_append]
  rfl

theorem lastBound?_cons_of_none {w : Visit} (h : w.bound? name = none) (ws : List Visit) :
    lastBound? name (w :: ws) = lastBound? name ws := by
  rw [lastBound?, List.filterMap_cons_none h]
  rfl

theorem exists_lastBound? {ws : List Visit} {w : Visit} (hw : w ∈ ws) {v : Value} (hv : w.bound? name = some v) :
    ∃ v', lastBound? name ws = some v' := by
  have hmem : v ∈ ws.filterMap (Visit.bound? name) := List.mem_filterMap.2 ⟨w, hw, hv⟩
  exact ⟨_, List.getLast?_eq_some_getLast (List.ne_nil_of_mem hmem)⟩

/-- Through these visits the name comes to stand for what it was bound to last, if it was. -/
def Settles (name : String) (before after : Table String Value) (ws : List Visit) : Prop :=
  after.find? name = (lastBound? name ws).or (before.find? name)

namespace Settles

variable {t u z : Table String Value} {vs ws : List Visit} {w : Visit}

theorem refl (t : Table String Value) : Settles name t t [] := rfl

theorem trans (hu : Settles name t u vs) (hz : Settles name u z ws) : Settles name t z (vs ++ ws) := by
  rw [Settles, lastBound?_append, hz, hu, Option.or_assoc]

theorem cons_of_none (hw : w.bound? name = none) (hu : Settles name t u ws) : Settles name t u (w :: ws) := by
  rw [Settles, lastBound?_cons_of_none hw, hu]

end Settles

/-- The name is not that of a variable of an iteration. -/
def IsShared (name : String) : Prop := ∀ base number, name ≠ Loop.bindingName base number

namespace Loop

theorem settles_bodies (hname : IsShared name) {spec : Loop} {body : Node}
    (hbody : ∀ ⦃f g : Frame⦄ ⦃b : Bool⦄, body.render f = .ok b g → Settles name f.bindings g.bindings (body.visits f))
    {items : List (Value × Value)} {texts : List String} {f g : Frame}
    (h : spec.bodies body.render items f = .ok texts g) :
    Settles name f.bindings g.bindings (spec.visits body.render body.visits items f) := by
  induction items generalizing f texts with
  | nil =>
    obtain ⟨rfl, rfl⟩ := bodies_nil_eq_ok.1 h
    exact .refl g.bindings
  | cons entry items ih =>
    obtain ⟨selected, inner, others, hrender, hrest, -⟩ := of_bodies_cons h
    rw [visits_cons hrender]
    have hinner := hbody hrender
    rw [Settles, enter, find?_bindIteration_of_ne fun base => hname base f.nextNumber] at hinner
    exact .trans hinner (ih hrest)

end Loop

namespace Node

theorem settles_renderFirst {whens : List (Formula × Node)}
    (hwhens : ∀ w ∈ whens, ∀ ⦃f g : Frame⦄ ⦃b : Bool⦄, w.2.render f = .ok b g →
      Settles name f.bindings g.bindings (w.2.visits f)) {f g : Frame} {b : Bool} (h : renderFirst whens f = .ok b g) :
    Settles name f.bindings g.bindings (visitsFirst whens f) := by
  induction whens with
  | nil =>
    obtain ⟨-, rfl⟩ := of_renderFirst_nil h
    exact .refl g.bindings
  | cons w whens ih =>
    obtain ⟨hw, hwhens⟩ := List.forall_mem_cons.1 hwhens
    rw [visitsFirst]
    rcases of_renderFirst_cons h with ⟨htest, h⟩ | ⟨htest, -, b, hbody⟩
    · rw [htest]
      exact ih hwhens h
    · rw [htest]
      exact hw hbody

theorem settles_renderAll {children : List Node}
    (hchildren : ∀ n ∈ children, ∀ ⦃f g : Frame⦄ ⦃b : Bool⦄, n.render f = .ok b g →
      Settles name f.bindings g.bindings (n.visits f)) {f g : Frame} {u : Unit} (h : renderAll children f = .ok u g) :
    Settles name f.bindings g.bindings (visitsAll children f) := by
  induction children generalizing f with
  | nil =>
    obtain rfl := of_renderAll_nil h
    exact .refl g.bindings
  | cons n children ih =>
    obtain ⟨hn, hchildren⟩ := List.forall_mem_cons.1 hchildren
    obtain ⟨b, f', hfirst, hrest⟩ := of_renderAll_cons h
    rw [visitsAll, hfirst]
    exact (hn hfirst).trans (ih hchildren hrest)

/-- A variable that no iteration binds for itself holds what was bound last under its name. -/
theorem settles_render (hname : IsShared name) (n : Node) ⦃f g : Frame⦄ ⦃b : Bool⦄
    (h : n.render f = .ok b g) : Settles name f.bindings g.bindings (n.visits f) := by
  induction n generalizing f g b with
  | text s =>
    rw [render_text] at h
    cases h
    rw [visits]
    exact .cons_of_none rfl (.refl f.bindings)
  | conditional cond body ih =>
    rw [visits]
    refine .cons_of_none rfl ?_
    rcases of_render_conditional h with ⟨htest, -, rfl⟩ | ⟨htest, -, b, hbody⟩
    · rw [htest]
      exact .refl g.bindings
    · rw [htest]
      exact ih hbody
  | choose whens otherwise ihwhens ihotherwise =>
    cases otherwise with
    | none =>
      rw [visits]
      refine .cons_of_none rfl ?_
      rcases of_render_choose h with ⟨hfirst, -⟩ | ⟨hfirst, -, rfl⟩
      · exact settles_renderFirst ihwhens hfirst
      · exact settles_renderFirst ihwhens hfirst
    | some n =>
      rw [visits]
      refine .cons_of_none rfl ?_
      rcases of_render_choose h with ⟨hfirst, -⟩ | ⟨hfirst, -, b, hn⟩
      · rw [hfirst, List.append_nil]
        exact settles_renderFirst ihwhens hfirst
      · rw [hfirst]
        exact (settles_renderFirst ihwhens hfirst).trans (ihotherwise n rfl hn)
  | loop spec body ih =>
    obtain ⟨-, items, texts, f', hitems, hbodies, rfl⟩ := of_render_loop h
    have hloop := spec.settles_bodies hname ih hbodies
    rw [visits, hitems]
    exact .cons_of_none rfl hloop
  | clause spec body ih =>
    obtain ⟨inner, hbody, rfl⟩ := of_render_clause h
    have hinner := ih hbody
    rw [visits]
    exact .cons_of_none rfl hinner
  | bind name' value =>
    obtain ⟨-, v, hv, rfl⟩ := of_render_bind h
    rw [visits, Settles, lastBound?, List.filterMap_cons, Visit.bound?]
    dsimp only
    by_cases heq : name' = name
    · subst heq
      rw [if_pos rfl, hv]
      exact Table.find?_insert_self f.bindings name' v
    · rw [if_neg heq]
      exact Table.find?_insert_of_ne f.bindings v (Ne.symm heq)
  | composite children ih =>
    obtain ⟨-, hall⟩ := of_render_composite h
    rw [visits]
    exact .cons_of_none rfl (settles_renderAll ih hall)

end Node

end DynamicSql
