import DynamicSql.Proofs.Template.Scope
import DynamicSql.Proofs.Template.Trimmed

/-!
# Lexical templates

A lexical template has no variables of its own but those of its loops: its texts are of plain characters
and placeholders of paths, and what it writes around them is plain. Rendering such a template writes all
placeholders of the texts on its way, in order, and each of them denotes the occurrence that it was
written as (`Node.Lexical.writes`).
-/

namespace DynamicSql

open Lexeme

/-- A part of a text of a template: a plain character, or a placeholder of a path that does not begin as
the variables of iterations do. -/
inductive Lexeme.IsFree : Lexeme → Prop
  | char {c : Char} : isPlain c = true → IsFree (.char c)
  | path {s : Segment} {rest : List Segment} : s.IsPlain → ¬ IsVariable s.name →
      (∀ t ∈ rest, t.IsPlain) → IsFree (.placeholder (Path.written s rest))

theorem Lexeme.IsFree.isPlain {l : Lexeme} (h : l.IsFree) : l.IsPlain := by
  cases h with
  | char hc => exact .char hc
  | path hs _ hrest => exact .path hs hrest

/-- A loop whose aliases are free names, and which writes plain text around and between the bodies. -/
structure Loop.IsLexical (spec : Loop) : Prop where
  aliases : ∀ name ∈ spec.aliases, IsFreeName name
  opening : ∀ c ∈ spec.opening.toList, isPlain c = true
  closing : ∀ c ∈ spec.closing.toList, isPlain c = true
  separator : ∀ c ∈ spec.separator.toList, isPlain c = true

/-- A template of texts, conditional parts, choices, loops, clauses and composites, in which placeholders
are paths and all else is plain text. -/
inductive Node.Lexical : Node → Prop
  | text {s : String} {ls : List Lexeme} : (∀ l ∈ ls, l.IsFree) → s.toList = textOf ls → Lexical (.text s)
  | conditional {test : Formula} {body : Node} : Lexical body → Lexical (.conditional test body)
  | choose {whens : List (Formula × Node)} {otherwise : Option Node} : (∀ w ∈ whens, Lexical w.2) →
      (∀ n ∈ otherwise, Lexical n) → Lexical (.choose whens otherwise)
  | loop {spec : Loop} {body : Node} : spec.IsLexical → Lexical body → Lexical (.loop spec body)
  | clause {spec : Clause} {body : Node} : spec.IsPlain → Lexical body → Lexical (.clause spec body)
  | composite {children : List Node} : (∀ n ∈ children, Lexical n) → Lexical (.composite children)

/-! ### Texts that are put together -/

theorem Composed.intercalate {separator : String} (hseparator : ∀ c ∈ separator.toList, isPlain c = true)
    {parts : List (List (List Char))} {texts : List String}
    (h : List.Forall₂ (fun bs (t : String) => Composed bs t.toList) parts texts) :
    Composed parts.flatten (separator.intercalate texts).toList := by
  rw [String.toList_intercalate]
  induction h with
  | nil => exact nil
  | @cons bs t parts texts ht htexts ih =>
    cases htexts with
    | nil =>
      rw [List.flatten_cons, List.flatten_nil, List.append_nil, List.map_cons, List.map_nil,
        List.intercalate_singleton]
      exact ht
    | cons =>
      have happend := (ht.append (plain hseparator)).append ih
      rw [List.append_nil] at happend
      rw [List.map_cons, List.map_cons, List.intercalate_cons_cons, ← List.map_cons]
      exact happend

namespace Frame

variable {f g h : Frame} {os os' : List Occurrence}

/-- The frame `g` is what `f` has become when text was written whose placeholders denote these
occurrences, in order. -/
structure Writes (f g : Frame) (os : List Occurrence) : Prop where
  grows : Grows f g
  text : ∃ t bs, g.text = f.text ++ t ∧ Composed bs t.toList ∧ List.Forall₂ g.Denotes bs os

theorem Writes.refl (f : Frame) : Writes f f [] :=
  ⟨.refl f, "", [], (String.append_empty).symm, .nil, .nil⟩

theorem Writes.trans (hg : Writes f g os) (hh : Writes g h os') : Writes f h (os ++ os') := by
  obtain ⟨hfg, t, bs, hgtext, hbs, hos⟩ := hg
  obtain ⟨hgh, u, cs, hhtext, hcs, hos'⟩ := hh
  refine ⟨hfg.trans hgh, t ++ u, bs ++ cs, ?_, ?_, ?_⟩
  · rw [hhtext, hgtext, String.append_assoc]
  · rw [String.toList_append]
    exact hbs.append hcs
  · exact List.rel_append (hos.imp fun _ _ hd => hd.mono hgh) hos'

end Frame

/-- Every rendering of the template writes its occurrences. -/
def Node.WritesOccurrences (n : Node) : Prop :=
  ∀ ⦃f g : Frame⦄ ⦃b : Bool⦄, n.render f = .ok b g → f.Writes g (n.occurrences f)

/-! ### Loops -/

namespace Loop

variable {spec : Loop} {body : Node} {f g : Frame}

theorem of_bodies (hspec : spec.IsLexical) (hbody : body.WritesOccurrences)
    {items : List (Value × Value)} {texts : List String}
    (h : spec.bodies body.render items f = .ok texts g) :
    f.Grows g ∧ g.text = f.text ∧ ∃ parts,
      List.Forall₂ (fun bs (t : String) => Composed bs t.toList) parts texts ∧
      List.Forall₂ g.Denotes parts.flatten
        ((spec.trace body.render body.trace items f).flatMap Event.occurrences) := by
  induction items generalizing f texts with
  | nil =>
    obtain ⟨rfl, rfl⟩ := bodies_nil_eq_ok.1 h
    exact ⟨.refl g, rfl, [], .nil, .nil⟩
  | cons entry items ih =>
    obtain ⟨index, item⟩ := entry
    obtain ⟨selected, inner, others, hrender, hrest, rfl⟩ := of_bodies_cons h
    obtain ⟨hinner, t, bs, htext, hbs, hos⟩ := hbody hrender
    obtain ⟨hgrows, hleft, parts, hparts, hothers⟩ := ih hrest
    have htext : inner.text = t := htext.trans String.empty_append
    have hdenotes : List.Forall₂ g.Denotes (bs.map (retarget spec.aliases f.nextNumber))
        (body.occurrences (spec.enter index item f)) := by
      rw [List.forall₂_map_left_iff]
      exact hos.imp fun _ _ hd => (hd.leave hspec.aliases hinner).mono hgrows
    refine ⟨hinner.leave.trans hgrows, hleft, ?_⟩
    rw [trace_cons hrender, List.flatMap_append, withText, htext]
    split
    · -- A blank text is left out, and holds no placeholders.
      next hblank =>
      obtain rfl := hbs.eq_nil_of_allBlank hblank
      exact ⟨parts, hparts, List.rel_append hdenotes hothers⟩
    · refine ⟨bs.map (retarget spec.aliases f.nextNumber) :: parts, .cons ?_ hparts,
        List.rel_append hdenotes hothers⟩
      rw [String.toList_ofList]
      exact hbs.itemize fun name hname => (hspec.aliases name hname).isName

theorem composed_joined (hspec : spec.IsLexical) {parts : List (List (List Char))} {texts : List String}
    (h : List.Forall₂ (fun bs (t : String) => Composed bs t.toList) parts texts) :
    Composed parts.flatten (Node.joined spec texts).toList := by
  rw [Node.joined]
  cases h with
  | nil => exact .nil
  | cons ht htexts =>
    have hinside := Composed.intercalate hspec.separator (.cons ht htexts)
    have haround := ((Composed.plain hspec.opening).append hinside).append (.plain hspec.closing)
    rw [List.append_nil, ← String.toList_append, ← String.toList_append] at haround
    exact haround

end Loop

/-! ### Templates -/

namespace Node

variable {f g : Frame} {body : Node}

theorem text_writes {s : String} {ls : List Lexeme} (h : ∀ l ∈ ls, l.IsFree) (hs : s.toList = textOf ls) :
    (text s).WritesOccurrences := by
  intro f g b hrender
  rw [render_text] at hrender
  cases hrender
  have hoccurrences : (text s).occurrences f = (bodies ls).map (⟨·, f.scopes⟩) := by
    rw [occurrences, trace, List.flatMap_singleton, Event.occurrences,
      placeholdersIn_textOf (fun l hl => (h l hl).isPlain.readable) hs]
  refine ⟨.withText f _, s, bodies ls, rfl, ⟨ls, fun l hl => (h l hl).isPlain, hs.symm, rfl⟩, ?_⟩
  rw [hoccurrences, List.forall₂_map_right_iff]
  refine List.forall₂_same.2 fun body hbody => ?_
  obtain ⟨l, hl, hlbody⟩ := List.mem_filterMap.1 hbody
  cases h l hl with
  | char => cases hlbody
  | path hs hname hrest =>
    obtain rfl := Option.some.inj hlbody
    exact .free hs hrest hname rfl

theorem conditional_writes {test : Formula} (hbody : body.WritesOccurrences) :
    (conditional test body).WritesOccurrences := by
  intro f g b h
  rw [occurrences]
  rcases of_render_conditional h with ⟨htest, -, rfl⟩ | ⟨htest, -, b, hrender⟩
  · rw [trace_conditional_false htest]
    exact .refl g
  · rw [trace_conditional_true htest]
    exact hbody hrender

theorem renderFirst_writes {whens : List (Formula × Node)} (hwhens : ∀ w ∈ whens, w.2.WritesOccurrences)
    {b : Bool} (h : renderFirst whens f = .ok b g) :
    f.Writes g ((traceFirst whens f).flatMap Event.occurrences) := by
  induction whens with
  | nil =>
    obtain ⟨-, rfl⟩ := of_renderFirst_nil h
    rw [traceFirst]
    exact .refl g
  | cons w whens ih =>
    obtain ⟨cond, body⟩ := w
    rcases of_renderFirst_cons h with ⟨htest, hrest⟩ | ⟨htest, -, b, hrender⟩
    · rw [traceFirst_cons_false htest]
      exact ih (fun w hw => hwhens w (.tail _ hw)) hrest
    · rw [traceFirst_cons_true htest]
      exact hwhens _ (.head _) hrender

theorem choose_writes {whens : List (Formula × Node)} {otherwise : Option Node}
    (hwhens : ∀ w ∈ whens, w.2.WritesOccurrences) (hotherwise : ∀ n ∈ otherwise, n.WritesOccurrences) :
    (choose whens otherwise).WritesOccurrences := by
  intro f g b h
  rw [occurrences]
  rcases of_render_choose h with ⟨hfirst, -⟩ | ⟨hfirst, hrest⟩
  · rw [trace_choose_true hfirst]
    exact renderFirst_writes hwhens hfirst
  · have hnone := renderFirst_writes hwhens hfirst
    cases otherwise with
    | none =>
      obtain ⟨-, rfl⟩ := hrest
      rw [trace_choose_none]
      exact hnone
    | some n =>
      obtain ⟨-, b, hrender⟩ := hrest
      rw [trace_choose_false hfirst, List.flatMap_append]
      exact hnone.trans (hotherwise n rfl hrender)

theorem loop_writes {spec : Loop} (hspec : spec.IsLexical) (hbody : body.WritesOccurrences) :
    (loop spec body).WritesOccurrences := by
  intro f g b h
  obtain ⟨-, items, texts, f', hitems, hbodies, rfl⟩ := of_render_loop h
  obtain ⟨hgrows, hleft, parts, hparts, hdenotes⟩ := Loop.of_bodies hspec hbody hbodies
  have happend : f'.Grows (f'.append (joined spec texts)) := .withText f' _
  rw [occurrences, trace_loop hitems, List.flatMap_cons, Event.occurrences, List.nil_append]
  refine ⟨hgrows.trans happend, joined spec texts, parts.flatten, ?_, Loop.composed_joined hspec hparts,
    hdenotes.imp fun _ _ hd => hd.mono happend⟩
  rw [Frame.append, hleft]

theorem clause_writes {spec : Clause} (hspec : spec.IsPlain) (hbody : body.WritesOccurrences) :
    (clause spec body).WritesOccurrences := by
  intro f g b h
  obtain ⟨inner, hrender, rfl⟩ := of_render_clause h
  obtain ⟨hgrows, t, bs, htext, hbs, hdenotes⟩ := hbody hrender
  have htext : inner.text = t := htext.trans String.empty_append
  have hwrite : inner.Grows { inner with text := f.text ++ String.ofList (spec.apply inner.text.toList) } :=
    .withText inner _
  rw [occurrences, trace]
  refine ⟨(Frame.Grows.withText f "").trans (hgrows.trans hwrite),
    String.ofList (spec.apply inner.text.toList), bs, rfl, ?_, hdenotes.imp fun _ _ hd => hd.mono hwrite⟩
  rw [String.toList_ofList, htext]
  exact hbs.apply hspec

theorem renderAll_writes {children : List Node} (hchildren : ∀ n ∈ children, n.WritesOccurrences)
    {u : Unit} (h : renderAll children f = .ok u g) :
    f.Writes g ((traceAll children f).flatMap Event.occurrences) := by
  induction children generalizing f with
  | nil =>
    obtain rfl := of_renderAll_nil h
    rw [traceAll]
    exact .refl g
  | cons n children ih =>
    obtain ⟨b, f', hrender, hrest⟩ := of_renderAll_cons h
    rw [traceAll_cons hrender, List.flatMap_append]
    exact (hchildren n (.head _) hrender).trans (ih (fun m hm => hchildren m (.tail _ hm)) hrest)

/-- Rendering a lexical template writes its placeholders, in order, and each of them denotes the
occurrence that it was written as. -/
theorem Lexical.writes {n : Node} (h : n.Lexical) : n.WritesOccurrences := by
  induction h with
  | text hparts htext => exact text_writes hparts htext
  | conditional _ ih => exact conditional_writes ih
  | choose _ _ ihwhens ihotherwise => exact choose_writes ihwhens ihotherwise
  | loop hspec _ ih => exact loop_writes hspec ih
  | clause hspec _ ih => exact clause_writes hspec ih
  | composite _ ih =>
    intro f g b h
    rw [occurrences, trace]
    exact renderAll_writes ih (of_render_composite h).2

end Node

end DynamicSql
