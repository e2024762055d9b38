import DynamicSql.Proofs.Template.Course

/-!
# Iterations of loops

The iterations of all loops of a rendering are numbered one after the other, nested loops included, so that no
two of them have a variable of the same name (`Node.iterations`). A loop whose iterations all succeed goes through
its collection in order and writes what they leave, and the variables of an iteration keep its index and its item
to the end of the rendering unless the template binds a variable of such a name itself.
-/

namespace DynamicSql

open Step

namespace Pass

/-- What the body writes in the iteration. -/
def output (p : Pass) (body : Node) : String := (final (body.render p.entered)).text

/-- Whether the iteration leaves nothing to write. -/
def isBlank (p : Pass) (body : Node) : Bool := Text.allBlank (p.output body).toList

/-- What the body writes, with its placeholders pointed at the variables of the iteration. -/
def itemized (p : Pass) (body : Node) : String :=
  String.ofList (Loop.itemize p.spec.aliases p.number (p.output body).toList)

/-- The variables of the iteration hold its item and its index; an alias of both is one of the item. -/
structure IsHeldIn (p : Pass) (bindings : Table String Value) : Prop where
  item : ∀ name ∈ p.spec.item, bindings.find? (Loop.bindingName name p.number) = some p.item
  index : ∀ name ∈ p.spec.index, p.spec.item ≠ some name →
    bindings.find? (Loop.bindingName name p.number) = some p.index

theorem isHeldIn_entered (p : Pass) : p.IsHeldIn p.entered.bindings := by
  obtain ⟨⟨collection, item, index, opening, closing, separator⟩, i, v, f⟩ := p
  refine ⟨fun name hname => ?_, fun name hname hne => ?_⟩
  · obtain rfl : item = some name := hname
    cases index with
    | none => exact Table.find?_insert_self _ _ _
    | some other => exact Table.find?_insert_self _ _ _
  · obtain rfl : index = some name := hname
    cases item with
    | none => exact Table.find?_insert_self _ _ _
    | some other =>
      have hother : Loop.bindingName name f.nextNumber ≠ Loop.bindingName other f.nextNumber :=
        fun h => hne (congrArg some (Loop.bindingName_inj h).1.symm)
      exact (Table.find?_insert_of_ne _ _ hother).trans (Table.find?_insert_self _ _ _)

end Pass

/-! ### Numbers -/

/-- From `f` to `g` just these iterations begin, each with the next number. -/
structure Counts (f : Frame) (ps : List Pass) (g : Frame) : Prop where
  le : f.nextNumber ≤ g.nextNumber
  perm : (ps.map Pass.number).Perm (List.range' f.nextNumber (g.nextNumber - f.nextNumber))

namespace Counts

variable {f g h : Frame} {ps qs : List Pass}

theorem of_eq (heq : g.nextNumber = f.nextNumber) : Counts f [] g where
  le := heq.ge
  perm := by
    rw [heq, Nat.sub_self]
    exact .refl []

theorem trans (hps : Counts f ps g) (hqs : Counts g qs h) : Counts f (ps ++ qs) h where
  le := hps.le.trans hqs.le
  perm := by
    have happend := List.range'_append_1 (s := f.nextNumber) (m := g.nextNumber - f.nextNumber)
      (n := h.nextNumber - g.nextNumber)
    have hle := hps.le
    have hle' := hqs.le
    rw [show f.nextNumber + (g.nextNumber - f.nextNumber) = g.nextNumber by omega,
      show g.nextNumber - f.nextNumber + (h.nextNumber - g.nextNumber) = h.nextNumber - f.nextNumber by omega]
      at happend
    rw [List.map_append, ← happend]
    exact hps.perm.append hqs.perm

theorem iteration {p : Pass} (hps : Counts p.entered ps g) : Counts p.before (p :: ps) (Loop.leave p.before g) where
  le := (Nat.le_succ _).trans hps.le
  perm := by
    have hle : p.number + 1 ≤ g.nextNumber := hps.le
    have hperm : (ps.map Pass.number).Perm (List.range' (p.number + 1) (g.nextNumber - (p.number + 1))) := hps.perm
    show ((p :: ps).map Pass.number).Perm (List.range' p.number (g.nextNumber - p.number))
    rw [List.map_cons, show g.nextNumber - p.number = g.nextNumber - (p.number + 1) + 1 by omega, List.range'_succ]
    exact hperm.cons p.number

end Counts

theorem isCourse_counts :
    IsCourse (fun _ => True) fun f ps vs _ g => Counts f (ps ++ vs.flatMap Visit.passes) g where
  refl _ := .of_eq rfl
  trans {_ _ _ ps qs vs ws _} hps hqs := by
    have hperm : (ps ++ qs ++ (vs ++ ws).flatMap Visit.passes).Perm
        (ps ++ vs.flatMap Visit.passes ++ (qs ++ ws.flatMap Visit.passes)) := by
      rw [List.flatMap_append, List.append_assoc, List.append_assoc]
      refine .append_left ps ?_
      rw [← List.append_assoc, ← List.append_assoc]
      exact List.perm_append_comm.append_right _
    have happend := hps.trans hqs
    exact ⟨happend.le, (hperm.map Pass.number).trans happend.perm⟩
  append _ _ := .of_eq rfl
  bind _ _ _ _ := .of_eq rfl
  visit {v} h := by
    rw [List.flatMap_singleton, h]
    exact .of_eq rfl
  capture h := ⟨h.le, h.perm⟩
  iteration h := h.iteration
  loop _ h := h

/-- Rendering begins just the iterations of its loops, and gives each of them the next number. -/
theorem Node.counts_passes (n : Node) (f : Frame) : Counts f (n.passes f) (final (n.render f)) :=
  n.course isCourse_counts (fun _ _ => trivial) f

theorem Node.nodup_passes (n : Node) (f : Frame) : ((n.passes f).map Pass.number).Nodup :=
  (n.counts_passes f).perm.nodup_iff.2 List.nodup_range'

/-! ### Variables -/

/-- From `f` to `g` the variables of earlier iterations stay as they are, and those of the iterations `ps` come to
hold their indexes and items. -/
structure Retains (f : Frame) (ps : List Pass) (g : Frame) : Prop where
  le : f.nextNumber ≤ g.nextNumber
  kept : ∀ base number, number < f.nextNumber →
    g.bindings.find? (Loop.bindingName base number) = f.bindings.find? (Loop.bindingName base number)
  held : ∀ p ∈ ps, p.number < g.nextNumber ∧ p.IsHeldIn g.bindings

namespace Retains

variable {f g h : Frame} {ps qs : List Pass}

theorem refl (f : Frame) : Retains f [] f := ⟨le_rfl, fun _ _ _ => rfl, List.forall_mem_nil _⟩

theorem isHeldIn (hps : Retains f ps g) {p : Pass} (hp : p.number < f.nextNumber)
    (hheld : p.IsHeldIn f.bindings) : p.IsHeldIn g.bindings where
  item name hname := (hps.kept name p.number hp).trans (hheld.item name hname)
  index name hname hne := (hps.kept name p.number hp).trans (hheld.index name hname hne)

theorem trans (hps : Retains f ps g) (hqs : Retains g qs h) : Retains f (ps ++ qs) h where
  le := hps.le.trans hqs.le
  kept base number hlt := (hqs.kept base number (hlt.trans_le hps.le)).trans (hps.kept base number hlt)
  held := List.forall_mem_append.2
    ⟨fun p hp => (hps.held p hp).imp (·.trans_le hqs.le) (hqs.isHeldIn (hps.held p hp).1), hqs.held⟩

theorem of_subset (hps : Retains f ps g) (h : ∀ p ∈ qs, p ∈ ps) : Retains f qs g :=
  ⟨hps.le, hps.kept, fun p hp => hps.held p (h p hp)⟩

theorem bind (f : Frame) {name : String} (hname : ¬ IsVariable name) (v : Value) : Retains f [] (f.bind name v) :=
  ⟨le_rfl, fun _ number _ => Table.find?_insert_of_ne _ _ (Loop.bindingName_ne_of_free hname number).symm,
    List.forall_mem_nil _⟩

theorem iteration {p : Pass} (hps : Retains p.entered ps g) :
    Retains p.before (p :: ps) (Loop.leave p.before g) where
  le := (Nat.le_succ _).trans hps.le
  kept base number hlt := by
    have hentered : p.entered.bindings.find? (Loop.bindingName base number) =
        p.before.bindings.find? (Loop.bindingName base number) :=
      Loop.find?_bindIteration_of_ne (fun base' heq => hlt.ne (Loop.bindingName_inj heq).2) _
    exact (hps.kept base number (hlt.trans (Nat.lt_succ_self _))).trans hentered
  held := List.forall_mem_cons.2
    ⟨⟨hps.le, hps.isHeldIn (Nat.lt_succ_self _) p.isHeldIn_entered⟩, hps.held⟩

end Retains

theorem isCourse_retains :
    IsCourse (¬ IsVariable ·) fun f ps vs _ g => Retains f (ps ++ vs.flatMap Visit.passes) g where
  refl f := .refl f
  trans {_ _ _ ps qs vs ws _} hps hqs := by
    refine (hps.trans hqs).of_subset fun p hp => ?_
    rw [List.flatMap_append] at hp
    simp only [List.mem_append] at hp ⊢
    tauto
  append _ _ := ⟨le_rfl, fun _ _ _ => rfl, List.forall_mem_nil _⟩
  bind f _ v hname := .bind f hname v
  visit {v} h := by
    rw [List.flatMap_singleton, h]
    exact .refl v.frame
  capture h := ⟨h.le, h.kept, h.held⟩
  iteration h := h.iteration
  loop _ h := h

/-! ### Loops whose iterations succeed -/

namespace Loop

variable {spec : Loop} {body : Node} {items : List (Value × Value)} {f : Frame}

theorem pairwise_passes (spec : Loop) (body : Node) (items : List (Value × Value)) (f : Frame) :
    (∀ p ∈ spec.passes body.render items f, f.nextNumber ≤ p.number) ∧
      (spec.passes body.render items f).Pairwise (·.number < ·.number) := by
  induction items generalizing f with
  | nil => exact ⟨List.forall_mem_nil _, .nil⟩
  | cons entry items ih =>
    obtain ⟨index, item⟩ := entry
    rw [passes]
    cases hrender : body.render (spec.enter index item f) with
    | error e g => exact ⟨List.forall_mem_singleton.2 le_rfl, List.pairwise_singleton _ _⟩
    | ok b g =>
      have hlt : f.nextNumber + 1 ≤ g.nextNumber := by
        have hle := (body.counts_passes (spec.enter index item f)).le
        rw [hrender] at hle
        exact hle
      obtain ⟨hfrom, hpairwise⟩ := ih (leave f g)
      exact ⟨List.forall_mem_cons.2 ⟨le_rfl, fun p hp => (Nat.le_of_succ_le hlt).trans (hfrom p hp)⟩,
        List.pairwise_cons.2 ⟨fun p hp => hlt.trans (hfrom p hp), hpairwise⟩⟩

/-- Iterations that succeed go through the items in order, and leave the texts that are not blank. -/
theorem bodies_of_passes (hok : ∀ p ∈ spec.passes body.render items f, fault? (body.render p.entered) = none) :
    (spec.passes body.render items f).map (fun p => (p.index, p.item)) = items ∧
      ∃ g, spec.bodies body.render items f =
          .ok (((spec.passes body.render items f).filter (!·.isBlank body)).map (·.itemized body)) g ∧
        g.text = f.text := by
  induction items generalizing f with
  | nil => exact ⟨rfl, f, rfl, rfl⟩
  | cons entry items ih =>
    obtain ⟨index, item⟩ := entry
    let p : Pass := ⟨spec, index, item, f⟩
    rw [passes] at hok ⊢
    obtain ⟨hfirst, hrest⟩ := List.forall_mem_cons.1 hok
    cases hrender : body.render (spec.enter index item f) with
    | error e g =>
      have hfirst : fault? (body.render (spec.enter index item f)) = none := hfirst
      rw [hrender] at hfirst
      cases hfirst
    | ok b inner =>
      rw [hrender] at hrest
      obtain ⟨hitems, g, hbodies, htext⟩ := ih hrest
      have houtput : p.output body = inner.text := by
        show (final (body.render (spec.enter index item f))).text = _
        rw [hrender]
        rfl
      have hwritten : ∀ others, spec.withText f.nextNumber inner.text others =
          if p.isBlank body then others else p.itemized body :: others := by
        intro others
        rw [Pass.isBlank, Pass.itemized, houtput, withText]
        rfl
      refine ⟨congrArg ((index, item) :: ·) hitems, g, ?_, htext⟩
      rw [bodies_of_ok hrender]
      refine map_eq_ok.2 ⟨_, hbodies, ?_⟩
      rw [hwritten, List.filter_cons]
      cases p.isBlank body <;> rfl

theorem exists_render_of_passes (hitems : spec.collection.evalItems f.lookup = .ok items)
    (hok : ∀ p ∈ spec.passes body.render items f, fault? (body.render p.entered) = none) :
    ∃ g, (Node.loop spec body).render f = .ok true g ∧
      g.text = f.text ++
        if (spec.passes body.render items f).all (·.isBlank body) then ""
        else spec.opening ++
          spec.separator.intercalate
            (((spec.passes body.render items f).filter (!·.isBlank body)).map (·.itemized body)) ++
          spec.closing := by
  obtain ⟨-, g, hbodies, htext⟩ := bodies_of_passes hok
  have hblank : (spec.passes body.render items f).all (·.isBlank body) =
      (((spec.passes body.render items f).filter (!·.isBlank body)).map (·.itemized body)).isEmpty := by
    rw [List.isEmpty_map, Bool.eq_iff_iff, List.isEmpty_iff, List.filter_eq_nil_iff, List.all_eq_true]
    simp only [Bool.not_eq_true, Bool.not_eq_false']
  refine ⟨_, Node.render_loop hitems hbodies, ?_⟩
  rw [Frame.append, htext, hblank]
  rfl

end Loop

theorem Node.eq_of_bindingName_eq {n : Node} {f : Frame} {i j : Nat} {p q : Pass} (hp : (n.passes f)[i]? = some p)
    (hq : (n.passes f)[j]? = some q) {name name' : String}
    (h : Loop.bindingName name p.number = Loop.bindingName name' q.number) : i = j ∧ name = name' := by
  obtain ⟨hname, hnumber⟩ := Loop.bindingName_inj h
  have hp' : ((n.passes f).map Pass.number)[i]? = some p.number := by rw [List.getElem?_map, hp]; rfl
  have hq' : ((n.passes f).map Pass.number)[j]? = some q.number := by rw [List.getElem?_map, hq]; rfl
  obtain ⟨hi, -⟩ := List.getElem?_eq_some_iff.1 hp'
  exact ⟨(List.getElem?_inj hi (n.nodup_passes f)).1 (by rw [hp', hq', hnumber]), hname⟩

/-- The iterations of all loops of a rendering have the numbers from the next one on, each once, so that different
aliases and iterations have variables of different names. A loop whose iterations all succeed goes through its
items in order, with growing numbers, and writes nothing if every iteration leaves a blank text, and otherwise the
other texts, with what is written around and between them. If the template binds no variable that is named like
those of iterations, then at the end the variables of each iteration hold its item and its index. -/
theorem Node.iterations (n : Node) (f : Frame) :
    ((n.passes f).map Pass.number).Perm
        (List.range' f.nextNumber ((final (n.render f)).nextNumber - f.nextNumber)) ∧
      (∀ (i j : Nat) (p q : Pass), (n.passes f)[i]? = some p → (n.passes f)[j]? = some q → ∀ name name',
        Loop.bindingName name p.number = Loop.bindingName name' q.number → i = j ∧ name = name') ∧
      (∀ spec body g items, ⟨.loop spec body, g⟩ ∈ n.visits f →
        spec.collection.evalItems g.lookup = .ok items →
        (∀ p ∈ spec.passes body.render items g, fault? (body.render p.entered) = none) →
        (∀ p ∈ spec.passes body.render items g, p ∈ n.passes f) ∧
        (spec.passes body.render items g).map (fun p => (p.index, p.item)) = items ∧
        (spec.passes body.render items g).Pairwise (·.number < ·.number) ∧
        ∃ h, (loop spec body).render g = .ok true h ∧
          h.text = g.text ++
            if (spec.passes body.render items g).all (·.isBlank body) then ""
            else spec.opening ++
              spec.separator.intercalate
                (((spec.passes body.render items g).filter (!·.isBlank body)).map (·.itemized body)) ++
              spec.closing) ∧
      ((∀ name, n.Binds name → ¬ IsVariable name) →
        ∀ p ∈ n.passes f, p.IsHeldIn (final (n.render f)).bindings) := by
  refine ⟨(n.counts_passes f).perm, ?_, ?_, fun hn p hp => ?_⟩
  · intro i j p q hp hq name name' heq
    exact eq_of_bindingName_eq hp hq heq
  · intro spec body g items hvisit hitems hok
    have hmem : ∀ p ∈ spec.passes body.render items g, p ∈ n.passes f := fun p hp =>
      List.mem_flatMap.2 ⟨_, hvisit, by rwa [Visit.passes_loop hitems body]⟩
    exact ⟨hmem, (Loop.bodies_of_passes hok).1, (spec.pairwise_passes body items g).2,
      Loop.exists_render_of_passes hitems hok⟩
  · exact ((n.course isCourse_retains hn f).held p hp).2

/-! ### A loop with a blank iteration -/

/-- A loop over flags that writes a letter for those that are set. -/
def overFlags : Loop := ⟨⟨"xs", .name "xs"⟩, some "x", some "i", "(", ")", ","⟩

def shownFlag : Node := .conditional ⟨"x", .name "x"⟩ (.text "v")

def beforeFlags : Frame := .start (.map [("xs", .list [.boolean true, .boolean false])]) none

def setFlag : Pass := ⟨overFlags, .int 0, .boolean true, beforeFlags⟩

def clearedFlag : Pass := ⟨overFlags, .int 1, .boolean false, Loop.leave beforeFlags (setFlag.entered.append "v")⟩

theorem render_setFlag : shownFlag.render setFlag.entered = .ok true (setFlag.entered.append "v") := rfl

theorem render_clearedFlag : shownFlag.render clearedFlag.entered = .ok false clearedFlag.entered := rfl

theorem passes_overFlags :
    overFlags.passes shownFlag.render [(.int 0, .boolean true), (.int 1, .boolean false)] beforeFlags =
      [setFlag, clearedFlag] := by
  have hset : shownFlag.render (overFlags.enter (.int 0) (.boolean true) beforeFlags) =
      .ok true (setFlag.entered.append "v") := render_setFlag
  have hcleared : shownFlag.render (overFlags.enter (.int 1) (.boolean false)
      (Loop.leave beforeFlags (setFlag.entered.append "v"))) = .ok false clearedFlag.entered := render_clearedFlag
  rw [Loop.passes, hset]
  dsimp only
  rw [Loop.passes, hcleared]
  rfl

theorem itemize_letter (number : Nat) : Loop.itemize overFlags.aliases number ['v'] = ['v'] := by
  have haliases : ∀ name ∈ overFlags.aliases, IsName name :=
    List.forall_mem_cons.2 ⟨⟨by decide, List.all_eq_true.1 (by decide)⟩,
      List.forall_mem_singleton.2 ⟨by decide, List.all_eq_true.1 (by decide)⟩⟩
  have hletter : ∀ l ∈ [Lexeme.char 'v'], l.IsPlain := List.forall_mem_singleton.2 (.char (by decide))
  exact Loop.itemize_textOf haliases hletter

theorem not_binds_shownFlag (name : String) : ¬ (Node.loop overFlags shownFlag).Binds name := by
  rintro ⟨value, hloop⟩
  cases hloop with
  | loop hconditional =>
    cases hconditional with
    | conditional htext => cases htext

theorem Node.iterations_overFlags :
    (∃ h, (loop overFlags shownFlag).render beforeFlags = .ok true h ∧ h.text = "(v)") ∧
      clearedFlag.number = 1 ∧
      clearedFlag.IsHeldIn (final ((loop overFlags shownFlag).render beforeFlags)).bindings := by
  obtain ⟨-, -, hloops, hheld⟩ := Node.iterations (loop overFlags shownFlag) beforeFlags
  have hvisit : ⟨loop overFlags shownFlag, beforeFlags⟩ ∈ (loop overFlags shownFlag).visits beforeFlags := by
    rw [visits]
    exact .head _
  have hitems : overFlags.collection.evalItems beforeFlags.lookup =
      .ok [(.int 0, .boolean true), (.int 1, .boolean false)] := rfl
  have hok : ∀ p ∈ [setFlag, clearedFlag], fault? (shownFlag.render p.entered) = none :=
    List.forall_mem_cons.2 ⟨by rw [render_setFlag]; rfl,
      List.forall_mem_singleton.2 (by rw [render_clearedFlag]; rfl)⟩
  have hset : setFlag.output shownFlag = "v" := by rw [Pass.output, render_setFlag]; rfl
  have hcleared : clearedFlag.output shownFlag = "" := by rw [Pass.output, render_clearedFlag]; rfl
  have hloop := hloops overFlags shownFlag beforeFlags _ hvisit hitems
  rw [passes_overFlags] at hloop
  obtain ⟨hmem, -, -, h, hrender, htext⟩ := hloop hok
  refine ⟨⟨h, hrender, htext.trans ?_⟩, rfl, hheld (fun name hname => absurd hname (not_binds_shownFlag name))
    clearedFlag (hmem clearedFlag (.tail _ (.head _)))⟩
  have hblank : setFlag.isBlank shownFlag = false := by rw [Pass.isBlank, hset]; decide
  have hblank' : clearedFlag.isBlank shownFlag = true := by rw [Pass.isBlank, hcleared]; decide
  rw [List.all_cons, hblank, List.filter_cons, hblank, List.filter_cons, hblank', List.filter_nil]
  rw [Bool.false_and, if_neg Bool.false_ne_true, Bool.not_false, if_pos rfl, Bool.not_true,
    if_neg Bool.false_ne_true, List.map_singleton, Pass.itemized, hset]
  have hitemized : String.ofList (Loop.itemize setFlag.spec.aliases setFlag.number "v".toList) = "v" :=
    congrArg String.ofList (itemize_letter setFlag.number)
  rw [hitemized]
  decide

end DynamicSql
