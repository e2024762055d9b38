import DynamicSql.Proofs.Template.Trace

/-!
# Renderings that decide alike

Two renderings of a template whose decisions are the same write the same text and bind the same names,
whatever the values are that these names stand for. The relation `Alike` between the frames of both
is carried through every step; the list of decisions is used up from the front as they go.
-/

namespace DynamicSql

namespace Table

variable {κ α β : Type} [DecidableEq κ] [LT κ] [DecidableLT κ]

theorem keys_insert_congr {t : Table κ α} {u : Table κ β} (h : t.keys = u.keys) (k : κ) (v : α) (w : β) :
    (t.insert k v).keys = (u.insert k w).keys := by
  induction t generalizing u with
  | nil =>
    obtain rfl : u = [] := List.map_eq_nil_iff.1 h.symm
    rfl
  | cons e t ih =>
    obtain ⟨k', v'⟩ := e
    cases u with
    | nil => cases h
    | cons e u =>
      obtain ⟨k'', w'⟩ := e
      obtain ⟨rfl, hkeys⟩ : k' = k'' ∧ keys t = keys u := List.cons.inj h
      have ih := ih hkeys
      simp only [keys] at hkeys ih
      rw [insert, insert]
      split
      · simp [keys, hkeys]
      · split
        · simp [keys, hkeys]
        · simp [keys, ih]

theorem keys_foldl_insert_congr {entries₁ : List (κ × α)} {entries₂ : List (κ × β)}
    (hnames : entries₁.map Prod.fst = entries₂.map Prod.fst) {t : Table κ α} {u : Table κ β}
    (h : t.keys = u.keys) (rename : κ → κ) :
    (entries₁.foldl (fun (t : Table κ α) (k, v) => t.insert (rename k) v) t).keys =
      (entries₂.foldl (fun (t : Table κ β) (k, v) => t.insert (rename k) v) u).keys := by
  induction entries₁ generalizing entries₂ t u with
  | nil =>
    obtain rfl : entries₂ = [] := List.map_eq_nil_iff.1 hnames.symm
    exact h
  | cons e entries₁ ih =>
    obtain ⟨k, v⟩ := e
    cases entries₂ with
    | nil => cases hnames
    | cons e entries₂ =>
      obtain ⟨k', w⟩ := e
      obtain ⟨rfl, htail⟩ : k = k' ∧ entries₁.map Prod.fst = entries₂.map Prod.fst :=
        List.cons.inj hnames
      exact ih htail (keys_insert_congr h _ _ _)

end Table

/-- Frames that differ in values only: they hold the same text and variables of the same names, and
number loops from the same number on. -/
structure Frame.Alike (f₁ f₂ : Frame) : Prop where
  text : f₁.text = f₂.text
  names : f₁.bindings.keys = f₂.bindings.keys
  nextNumber : f₁.nextNumber = f₂.nextNumber

namespace Frame.Alike

variable {f₁ f₂ g₁ g₂ : Frame}

theorem start (argument₁ argument₂ : Value) (databaseId : Option String) :
    Alike (.start argument₁ databaseId) (.start argument₂ databaseId) where
  text := rfl
  names := Table.keys_insert_congr
    (Table.keys_insert_congr (t := []) (u := []) rfl argumentKey argument₁ argument₂) databaseIdKey _ _
  nextNumber := rfl

theorem append (h : Alike f₁ f₂) (s : String) : Alike (f₁.append s) (f₂.append s) where
  text := by rw [Frame.append, Frame.append, h.text]
  names := h.names
  nextNumber := h.nextNumber

theorem bind (h : Alike f₁ f₂) (name : String) (v₁ v₂ : Value) :
    Alike (f₁.bind name v₁) (f₂.bind name v₂) where
  text := h.text
  names := Table.keys_insert_congr h.names _ _ _
  nextNumber := h.nextNumber

theorem captured (h : Alike f₁ f₂) : Alike { f₁ with text := "" } { f₂ with text := "" } where
  text := rfl
  names := h.names
  nextNumber := h.nextNumber

theorem names_keys (spec : Loop) (index₁ item₁ index₂ item₂ : Value) :
    (spec.names index₁ item₁).map Prod.fst = (spec.names index₂ item₂).map Prod.fst := by
  simp [Loop.names, Function.comp_def]

theorem enter (h : Alike f₁ f₂) (spec : Loop) (index₁ item₁ index₂ item₂ : Value) :
    Alike (spec.enter index₁ item₁ f₁) (spec.enter index₂ item₂ f₂) where
  text := rfl
  names := by
    show (spec.bindIteration _ _ _ _).keys = (spec.bindIteration _ _ _ _).keys
    rw [Loop.bindIteration, Loop.bindIteration, h.nextNumber]
    exact Table.keys_foldl_insert_congr (names_keys spec ..) h.names
      fun name => Loop.bindingName name f₂.nextNumber
  nextNumber := congrArg (· + 1) h.nextNumber

theorem leave (h : Alike f₁ f₂) (hg : Alike g₁ g₂) : Alike (Loop.leave f₁ g₁) (Loop.leave f₂ g₂) where
  text := h.text
  names := hg.names
  nextNumber := hg.nextNumber

end Frame.Alike

/-- The list of decisions of a step says all that its result depends on but values: wherever two runs
from frames that are alike go through the same decisions, each followed by further ones, their
results are the same, their frames are alike again, and so are the further decisions. -/
def Rendering.DecidedBy {α : Type} (step : Rendering α) (decisions : Frame → List Decision) : Prop :=
  ∀ ⦃f₁ f₂ g₁ g₂ : Frame⦄ ⦃a₁ a₂ : α⦄ ⦃rest₁ rest₂ : List Decision⦄, f₁.Alike f₂ →
    step f₁ = .ok a₁ g₁ → step f₂ = .ok a₂ g₂ → decisions f₁ ++ rest₁ = decisions f₂ ++ rest₂ →
    a₁ = a₂ ∧ g₁.Alike g₂ ∧ rest₁ = rest₂

open Rendering

namespace Node

variable {body : Node}

theorem conditional_decidedBy (cond : Formula) (hbody : DecidedBy body.render body.decisions) :
    DecidedBy (conditional cond body).render (conditional cond body).decisions := by
  intro f₁ f₂ g₁ g₂ a₁ a₂ rest₁ rest₂ hf h₁ h₂ hrest
  rw [decisions, decisions] at hrest
  rcases of_render_conditional h₁ with ⟨htest₁, rfl, rfl⟩ | ⟨htest₁, rfl, b₁, hbody₁⟩ <;>
    rcases of_render_conditional h₂ with ⟨htest₂, rfl, rfl⟩ | ⟨htest₂, rfl, b₂, hbody₂⟩
  · rw [trace_conditional_false htest₁, trace_conditional_false htest₂] at hrest
    exact ⟨rfl, hf, (List.cons.inj hrest).2⟩
  · rw [trace_conditional_false htest₁, trace_conditional_true htest₂] at hrest
    cases (List.cons.inj hrest).1
  · rw [trace_conditional_true htest₁, trace_conditional_false htest₂] at hrest
    cases (List.cons.inj hrest).1
  · rw [trace_conditional_true htest₁, trace_conditional_true htest₂] at hrest
    exact ⟨rfl, (hbody hf hbody₁ hbody₂ (List.cons.inj hrest).2).2⟩

theorem renderFirst_decidedBy {whens : List (Formula × Node)}
    (hwhens : ∀ w ∈ whens, DecidedBy w.2.render w.2.decisions) :
    DecidedBy (renderFirst whens) fun f => (traceFirst whens f).filterMap Event.decision := by
  induction whens with
  | nil =>
    intro f₁ f₂ g₁ g₂ a₁ a₂ rest₁ rest₂ hf h₁ h₂ hrest
    obtain ⟨rfl, rfl⟩ := of_renderFirst_nil h₁
    obtain ⟨rfl, rfl⟩ := of_renderFirst_nil h₂
    exact ⟨rfl, hf, hrest⟩
  | cons w whens ih =>
    obtain ⟨cond, body⟩ := w
    have hbody := hwhens _ (.head _)
    have ih := ih fun w hw => hwhens w (.tail _ hw)
    intro f₁ f₂ g₁ g₂ a₁ a₂ rest₁ rest₂ hf h₁ h₂ hrest
    dsimp only at hrest
    rcases of_renderFirst_cons h₁ with ⟨htest₁, h₁⟩ | ⟨htest₁, rfl, b₁, hbody₁⟩ <;>
      rcases of_renderFirst_cons h₂ with ⟨htest₂, h₂⟩ | ⟨htest₂, rfl, b₂, hbody₂⟩
    · rw [traceFirst_cons_false htest₁, traceFirst_cons_false htest₂] at hrest
      exact ih hf h₁ h₂ (List.cons.inj hrest).2
    · rw [traceFirst_cons_false htest₁, traceFirst_cons_true htest₂] at hrest
      cases (List.cons.inj hrest).1
    · rw [traceFirst_cons_true htest₁, traceFirst_cons_false htest₂] at hrest
      cases (List.cons.inj hrest).1
    · rw [traceFirst_cons_true htest₁, traceFirst_cons_true htest₂] at hrest
      exact ⟨rfl, (hbody hf hbody₁ hbody₂ (List.cons.inj hrest).2).2⟩

theorem choose_decidedBy {whens : List (Formula × Node)} {otherwise : Option Node}
    (hwhens : ∀ w ∈ whens, DecidedBy w.2.render w.2.decisions)
    (hotherwise : ∀ n ∈ otherwise, DecidedBy n.render n.decisions) :
    DecidedBy (choose whens otherwise).render (choose whens otherwise).decisions := by
  have hfirst := renderFirst_decidedBy hwhens
  cases otherwise with
  | none =>
    intro f₁ f₂ g₁ g₂ a₁ a₂ rest₁ rest₂ hf h₁ h₂ hrest
    rw [decisions, decisions, trace_choose_none, trace_choose_none] at hrest
    rw [render] at h₁ h₂
    exact hfirst hf h₁ h₂ hrest
  | some n =>
    have hn := hotherwise n rfl
    intro f₁ f₂ g₁ g₂ a₁ a₂ rest₁ rest₂ hf h₁ h₂ hrest
    rw [decisions, decisions] at hrest
    -- One run that takes a part and one that takes none cannot have made the same decisions.
    rcases of_render_choose h₁ with ⟨hfirst₁, rfl⟩ | ⟨hfirst₁, rfl, b₁, hn₁⟩ <;>
      rcases of_render_choose h₂ with ⟨hfirst₂, rfl⟩ | ⟨hfirst₂, rfl, b₂, hn₂⟩
    · rw [trace_choose_true hfirst₁, trace_choose_true hfirst₂] at hrest
      exact hfirst hf hfirst₁ hfirst₂ hrest
    · rw [trace_choose_true hfirst₁, trace_choose_false hfirst₂, List.filterMap_append,
        List.append_assoc] at hrest
      cases (hfirst hf hfirst₁ hfirst₂ hrest).1
    · rw [trace_choose_false hfirst₁, trace_choose_true hfirst₂, List.filterMap_append,
        List.append_assoc] at hrest
      cases (hfirst hf hfirst₁ hfirst₂ hrest).1
    · rw [trace_choose_false hfirst₁, trace_choose_false hfirst₂, List.filterMap_append, List.filterMap_append,
        List.append_assoc, List.append_assoc] at hrest
      have hrest := (hfirst hf hfirst₁ hfirst₂ hrest).2.2
      exact ⟨rfl, (hn hf hn₁ hn₂ hrest).2⟩

theorem bodies_alike {spec : Loop} (hbody : DecidedBy body.render body.decisions)
    {items₁ items₂ : List (Value × Value)} (hlength : items₁.length = items₂.length)
    {f₁ f₂ g₁ g₂ : Frame} {texts₁ texts₂ : List String} {rest₁ rest₂ : List Decision} (hf : f₁.Alike f₂)
    (h₁ : spec.bodies body.render items₁ f₁ = .ok texts₁ g₁)
    (h₂ : spec.bodies body.render items₂ f₂ = .ok texts₂ g₂)
    (hrest : (spec.trace body.render body.trace items₁ f₁).filterMap Event.decision ++ rest₁ =
      (spec.trace body.render body.trace items₂ f₂).filterMap Event.decision ++ rest₂) :
    texts₁ = texts₂ ∧ g₁.Alike g₂ ∧ rest₁ = rest₂ := by
  induction items₁ generalizing items₂ f₁ f₂ texts₁ texts₂ rest₁ rest₂ with
  | nil =>
    obtain rfl := List.length_eq_zero_iff.1 hlength.symm
    obtain ⟨rfl, rfl⟩ := Loop.bodies_nil_eq_ok.1 h₁
    obtain ⟨rfl, rfl⟩ := Loop.bodies_nil_eq_ok.1 h₂
    exact ⟨rfl, hf, hrest⟩
  | cons e items₁ ih =>
    obtain ⟨index₁, item₁⟩ := e
    cases items₂ with
    | nil => cases hlength
    | cons e items₂ =>
      obtain ⟨index₂, item₂⟩ := e
      obtain ⟨b₁, inner₁, others₁, hbody₁, hothers₁, rfl⟩ := Loop.of_bodies_cons h₁
      obtain ⟨b₂, inner₂, others₂, hbody₂, hothers₂, rfl⟩ := Loop.of_bodies_cons h₂
      rw [Loop.trace_cons hbody₁, Loop.trace_cons hbody₂, List.filterMap_append, List.filterMap_append,
        List.append_assoc, List.append_assoc] at hrest
      obtain ⟨-, hinner, hrest⟩ := hbody (hf.enter spec ..) hbody₁ hbody₂ hrest
      obtain ⟨rfl, hg, hrest⟩ :=
        ih (Nat.succ.inj hlength) (hf.leave hinner) hothers₁ hothers₂ hrest
      exact ⟨by rw [hf.nextNumber, hinner.text], hg, hrest⟩

theorem loop_decidedBy (spec : Loop) (hbody : DecidedBy body.render body.decisions) :
    DecidedBy (loop spec body).render (loop spec body).decisions := by
  intro f₁ f₂ g₁ g₂ a₁ a₂ rest₁ rest₂ hf h₁ h₂ hrest
  obtain ⟨rfl, items₁, texts₁, f₁', hitems₁, hbodies₁, rfl⟩ := of_render_loop h₁
  obtain ⟨rfl, items₂, texts₂, f₂', hitems₂, hbodies₂, rfl⟩ := of_render_loop h₂
  rw [decisions, decisions, trace_loop hitems₁, trace_loop hitems₂] at hrest
  obtain ⟨hcount, hrest⟩ := List.cons.inj hrest
  obtain ⟨rfl, hf', hrest⟩ :=
    bodies_alike hbody (Decision.count.inj hcount) hf hbodies₁ hbodies₂ hrest
  exact ⟨rfl, hf'.append _, hrest⟩

theorem clause_decidedBy (spec : Clause) (hbody : DecidedBy body.render body.decisions) :
    DecidedBy (clause spec body).render (clause spec body).decisions := by
  intro f₁ f₂ g₁ g₂ a₁ a₂ rest₁ rest₂ hf h₁ h₂ hrest
  obtain ⟨inner₁, hbody₁, rfl⟩ := of_render_clause h₁
  obtain ⟨inner₂, hbody₂, rfl⟩ := of_render_clause h₂
  rw [decisions, decisions, trace, trace] at hrest
  obtain ⟨rfl, hinner, hrest⟩ := hbody hf.captured hbody₁ hbody₂ hrest
  exact ⟨rfl, ⟨by rw [hf.text, hinner.text], hinner.names, hinner.nextNumber⟩, hrest⟩

theorem renderAll_decidedBy {children : List Node}
    (hchildren : ∀ n ∈ children, DecidedBy n.render n.decisions) :
    DecidedBy (renderAll children) fun f => (traceAll children f).filterMap Event.decision := by
  induction children with
  | nil =>
    intro f₁ f₂ g₁ g₂ a₁ a₂ rest₁ rest₂ hf h₁ h₂ hrest
    obtain rfl := of_renderAll_nil h₁
    obtain rfl := of_renderAll_nil h₂
    exact ⟨rfl, hf, hrest⟩
  | cons n children ih =>
    have hn := hchildren n (.head _)
    have ih := ih fun m hm => hchildren m (.tail _ hm)
    intro f₁ f₂ g₁ g₂ a₁ a₂ rest₁ rest₂ hf h₁ h₂ hrest
    obtain ⟨b₁, f₁', hn₁, hall₁⟩ := of_renderAll_cons h₁
    obtain ⟨b₂, f₂', hn₂, hall₂⟩ := of_renderAll_cons h₂
    dsimp only at hrest
    rw [traceAll_cons hn₁, traceAll_cons hn₂, List.filterMap_append, List.filterMap_append, List.append_assoc,
      List.append_assoc] at hrest
    obtain ⟨-, hf', hrest⟩ := hn hf hn₁ hn₂ hrest
    exact ih hf' hall₁ hall₂ hrest

theorem composite_decidedBy {children : List Node}
    (hchildren : ∀ n ∈ children, DecidedBy n.render n.decisions) :
    DecidedBy (composite children).render (composite children).decisions := by
  intro f₁ f₂ g₁ g₂ a₁ a₂ rest₁ rest₂ hf h₁ h₂ hrest
  obtain ⟨rfl, hall₁⟩ := of_render_composite h₁
  obtain ⟨rfl, hall₂⟩ := of_render_composite h₂
  rw [decisions, decisions, trace, trace] at hrest
  exact ⟨rfl, (renderAll_decidedBy hchildren hf hall₁ hall₂ hrest).2⟩

/-- What rendering writes and which names it binds is decided by its decisions. -/
theorem render_decidedBy (n : Node) : DecidedBy n.render n.decisions := by
  induction n with
  | text s =>
    intro f₁ f₂ g₁ g₂ a₁ a₂ rest₁ rest₂ hf h₁ h₂ hrest
    rw [render_text] at h₁ h₂
    cases h₁
    cases h₂
    rw [decisions, decisions, trace, trace] at hrest
    exact ⟨rfl, hf.append s, hrest⟩
  | conditional cond body ih => exact conditional_decidedBy cond ih
  | choose whens otherwise hwhens hotherwise => exact choose_decidedBy hwhens hotherwise
  | loop spec body ih => exact loop_decidedBy spec ih
  | clause spec body ih => exact clause_decidedBy spec ih
  | bind name value =>
    intro f₁ f₂ g₁ g₂ a₁ a₂ rest₁ rest₂ hf h₁ h₂ hrest
    obtain ⟨rfl, v₁, -, rfl⟩ := of_render_bind h₁
    obtain ⟨rfl, v₂, -, rfl⟩ := of_render_bind h₂
    rw [decisions, decisions, trace, trace] at hrest
    exact ⟨rfl, hf.bind name v₁ v₂, hrest⟩
  | composite children hchildren => exact composite_decidedBy hchildren

end Node

end DynamicSql
