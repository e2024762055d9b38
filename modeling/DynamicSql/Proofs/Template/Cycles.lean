import DynamicSql.Proofs.Template.Included
import DynamicSql.Proofs.Template.Substituted
import Mathlib.Logic.Relation

/-!
# Cycles of includes

A body is built together with all that it includes, to any depth. This comes to an end: each fragment that is entered
is one that the place is not in yet, so the chains of includes that are followed have no fragment twice
(`Library.wellFounded_expands`), and the depth that `Element.buildWithin` allows is never used up. Chains that come
back to a fragment are found, and nothing else is taken for one: building fails where such a chain exists, and it fails
for a circular include only there (`Library.build_includes`). What counts is the chain to a place, so a fragment can be
included many times, side by side or by different ways.
-/

namespace DynamicSql

open Step Element

/-- A place in which a body is built. -/
structure Place where
  scope : BuildScope
  body : List Element

namespace Library

variable {l : Library} {vars vars' : Table String String} {includes ids : List String} {body inner : List Element}
  {id : String} {expand expand' : BuildScope → List Element → Build Node}

/-- Building a body with variables comes to an include of a fragment, which is to be built with `vars'`. -/
inductive Leads (l : Library) (vars : Table String String) (body : List Element) (id : String)
    (vars' : Table String String) (inner : List Element) : Prop
  | intro {e : Element} (hmet : Meets body e) (hid : e.requiredAttr ⟨vars, []⟩ "refid" = .ok id)
      (hfind : l.fragments.find? id = some inner) (hvars : includedVariables ⟨vars, []⟩ e.children = .ok vars') :
      Leads l vars body id vars' inner

/-- At the one place the builder goes on to the other: it includes a fragment that the place is not in. -/
inductive Expands (l : Library) : Place → Place → Prop
  | intro {vars vars' : Table String String} {includes : List String} {body inner : List Element} {id : String}
      (hleads : Leads l vars body id vars' inner) (hnew : id ∉ includes) :
      Expands l ⟨⟨vars, includes⟩, body⟩ ⟨⟨vars', id :: includes⟩, inner⟩

/-- The fragments of nested includes: the first one stands in the body, and each one after it in the fragment before.
No fragment is refused for being in the chain already. -/
inductive Nested (l : Library) : Table String String → List Element → List String → Prop
  | last {vars : Table String String} {body : List Element} {id : String} {e : Element} (hmet : Meets body e)
      (hid : e.requiredAttr ⟨vars, []⟩ "refid" = .ok id) : Nested l vars body [id]
  | next {vars vars' : Table String String} {body inner : List Element} {id : String} {ids : List String}
      (hleads : Leads l vars body id vars' inner) (hids : Nested l vars' inner ids) : Nested l vars body (id :: ids)

/-- A way to build bodies that builds what they include in this way too. -/
def IsExpansion (l : Library) (expand : BuildScope → List Element → Build Node) : Prop :=
  ∀ scope body, expand scope body = buildBody l expand scope body

/-! ### One include -/

theorem includeAt_eq {e : Element} (hid : e.requiredAttr ⟨vars, []⟩ "refid" = .ok id) :
    includeAt l expand ⟨vars, includes⟩ e =
      if id ∈ includes then .error (.circularInclude id)
      else match l.fragments.find? id with
        | none => .error (.unknownFragment id)
        | some inner => includedVariables ⟨vars, []⟩ e.children >>= fun vars' =>
            expand ⟨vars', id :: includes⟩ inner := by
  rw [includeAt, show e.requiredAttr ⟨vars, includes⟩ "refid" = .ok id from hid]
  rfl

theorem Leads.exists_includeAt (h : Leads l vars body id vars' inner) (hnew : id ∉ includes) :
    ∃ e, Meets body e ∧
      ∀ expand, includeAt l expand ⟨vars, includes⟩ e = expand ⟨vars', id :: includes⟩ inner := by
  obtain ⟨hmet, hid, hfind, hvars⟩ := h
  refine ⟨_, hmet, fun expand => ?_⟩
  rw [includeAt_eq hid, if_neg hnew, hfind, hvars]
  rfl

theorem Leads.exists_include (h : Leads l vars body id vars' inner) :
    ∃ e, Meets body e ∧ (e.attr? "refid").map (substitute vars) = some id ∧ l.fragments.find? id = some inner ∧
      ∀ name, vars'.find? name =
        (lastGiven? (e.children.filterMap (property? vars)) name).or (vars.find? name) := by
  obtain ⟨hmet, hid, hfind, hvars⟩ := h
  have hattr := requiredAttr_eq_ok.1 hid
  have hnames := find?_includedVariables hvars
  exact ⟨_, hmet, hattr, hfind, hnames⟩

theorem includeAt_cases (l : Library) (vars : Table String String) (includes : List String) {e : Element}
    (hmet : Meets body e) :
    (∃ error, (∀ id, error ≠ .circularInclude id) ∧
        ∀ expand, includeAt l expand ⟨vars, includes⟩ e = .error error) ∨
      (∃ id, e.requiredAttr ⟨vars, []⟩ "refid" = .ok id ∧ id ∈ includes ∧
        ∀ expand, includeAt l expand ⟨vars, includes⟩ e = .error (.circularInclude id)) ∨
      ∃ id vars' inner, Leads l vars body id vars' inner ∧ id ∉ includes ∧
        ∀ expand, includeAt l expand ⟨vars, includes⟩ e = expand ⟨vars', id :: includes⟩ inner := by
  cases hid : e.requiredAttr ⟨vars, []⟩ "refid" with
  | error error =>
    refine .inl ⟨error, fun id => (failsWith_requiredAttr _ _ _ error hid id).2, fun expand => ?_⟩
    rw [includeAt, show e.requiredAttr ⟨vars, includes⟩ "refid" = .error error from hid]
    rfl
  | ok id =>
    by_cases hmem : id ∈ includes
    · exact .inr (.inl ⟨id, rfl, hmem, fun expand => (includeAt_eq hid).trans (if_pos hmem)⟩)
    cases hfind : l.fragments.find? id with
    | none =>
      refine .inl ⟨.unknownFragment id, fun _ => TemplateError.noConfusion, fun expand => ?_⟩
      rw [includeAt_eq hid, if_neg hmem, hfind]
    | some inner =>
      cases hvars : includedVariables ⟨vars, []⟩ e.children with
      | error error =>
        refine .inl ⟨error, fun id => (failsWith_includedVariables _ _ error hvars id).2, fun expand => ?_⟩
        rw [includeAt_eq hid, if_neg hmem, hfind, hvars]
        rfl
      | ok vars' =>
        refine .inr (.inr ⟨id, vars', inner, .intro hmet hid hfind hvars, hmem, fun expand => ?_⟩)
        rw [includeAt_eq hid, if_neg hmem, hfind, hvars]
        rfl

theorem isStepwise_eq : IsStepwise fun _ r₀ r => r₀ = r :=
  ⟨fun {_ _} _ => rfl, fun {_ _ _ _ _ _} hr hk => by rw [hr]; exact bind_congr hk⟩

theorem buildBody_congr (h : ∀ place, Expands l ⟨⟨vars, includes⟩, body⟩ place →
      expand place.scope place.body = expand' place.scope place.body) :
    buildBody l expand ⟨vars, includes⟩ body = buildBody l expand' ⟨vars, includes⟩ body := by
  refine isStepwise_eq.buildBody fun e hmet => ?_
  rcases includeAt_cases l vars includes hmet with
    ⟨error, -, hincluded⟩ | ⟨id, -, -, hincluded⟩ | ⟨id, vars', inner, hleads, hnew, hincluded⟩
  · rw [hincluded, hincluded]
  · rw [hincluded, hincluded]
  · rw [hincluded, hincluded]
    exact h ⟨⟨vars', id :: includes⟩, inner⟩ (.intro hleads hnew)

/-! ### Termination -/

theorem Expands.remaining_lt {outer inner : Place} (h : Expands l outer inner) :
    l.remaining inner.scope.includes < l.remaining outer.scope.includes := by
  obtain ⟨hleads, hnew⟩ := h
  obtain ⟨-, -, hfind, -⟩ := hleads
  exact remaining_cons_lt hnew (hfind ▸ Option.some_ne_none _)

/-- Going on from place to place comes to an end. -/
theorem wellFounded_expands (l : Library) : WellFounded fun inner outer => Expands l outer inner :=
  Subrelation.wf (fun h => h.remaining_lt) (measure fun place : Place => l.remaining place.scope.includes).wf

theorem nodup_of_expands {outer inner : Place} (h : Relation.ReflTransGen (Expands l) outer inner)
    (houter : outer.scope.includes.Nodup) : inner.scope.includes.Nodup := by
  induction h with
  | refl => exact houter
  | tail _ hstep ih =>
    obtain ⟨-, hnew⟩ := hstep
    exact List.nodup_cons.2 ⟨hnew, ih⟩

theorem buildWithin_eq {depth depth' : Nat} (hdepth : l.remaining includes < depth)
    (hdepth' : l.remaining includes < depth') :
    buildWithin l depth ⟨vars, includes⟩ body = buildWithin l depth' ⟨vars, includes⟩ body := by
  induction depth generalizing depth' vars includes body with
  | zero => exact absurd hdepth (Nat.not_lt_zero _)
  | succ depth ih =>
    cases depth' with
    | zero => exact absurd hdepth' (Nat.not_lt_zero _)
    | succ depth' =>
      rw [buildWithin, buildWithin]
      -- one include further, the depth is less by one, and so is what remains
      refine buildBody_congr fun inner hinner => ?_
      have hlt := hinner.remaining_lt
      exact ih (Nat.lt_of_lt_of_le hlt (Nat.lt_succ_iff.1 hdepth)) (Nat.lt_of_lt_of_le hlt (Nat.lt_succ_iff.1 hdepth'))

theorem isExpansion_buildWithin (l : Library) : IsExpansion l (buildWithin l (l.fragments.length + 1)) := by
  rintro ⟨vars, includes⟩ body
  rw [buildWithin]
  refine buildBody_congr fun inner hinner => ?_
  have hlt : l.remaining inner.scope.includes < l.fragments.length :=
    Nat.lt_of_lt_of_le hinner.remaining_lt (remaining_le l includes)
  exact buildWithin_eq hlt (Nat.lt_succ_of_lt hlt)

/-- There is no other one. -/
theorem IsExpansion.unique (h : IsExpansion l expand) (h' : IsExpansion l expand') : expand = expand' := by
  have heq : ∀ place : Place, expand place.scope place.body = expand' place.scope place.body := by
    intro place
    induction place using l.wellFounded_expands.induction with
    | h place ih =>
      rw [h, h']
      exact buildBody_congr ih
  funext scope body
  exact heq ⟨scope, body⟩

/-! ### Includes that fail -/

section Failure

variable {scope : BuildScope} {n : Node}

theorem exists_buildElement (h : buildBody l expand scope body = .ok n) :
    ∀ e ∈ body, ∃ m, buildElement l expand scope e = .ok m := by
  rw [buildBody] at h
  obtain ⟨ns, hns, -⟩ := except_bind_eq_ok.1 h
  clear h
  induction body generalizing ns with
  | nil => exact List.forall_mem_nil _
  | cons e body ih =>
    rw [buildAll] at hns
    obtain ⟨m, hm, hns⟩ := except_bind_eq_ok.1 hns
    obtain ⟨ms, hms, -⟩ := except_bind_eq_ok.1 hns
    exact List.forall_mem_cons.2 ⟨⟨m, hm⟩, ih ms hms⟩

theorem exists_buildBody {tag : String} {attrs : Table String String} {children : List Element} (htag : tag ∈ bodyTags)
    (h : buildElement l expand scope (.element tag attrs children) = .ok n) :
    ∃ m, buildBody l expand scope children = .ok m := by
  rw [buildElement.eq_def] at h
  dsimp only at h
  split at h
  · obtain ⟨test, -, h⟩ := except_bind_eq_ok.1 h
    exact exists_ok_of_bind h
  · obtain ⟨test, -, h⟩ := except_bind_eq_ok.1 h
    exact exists_ok_of_bind h
  · exact absurd htag (by decide)
  · obtain ⟨collection, -, h⟩ := except_bind_eq_ok.1 h
    exact exists_ok_of_bind h
  · exact exists_ok_of_bind h
  · exact exists_ok_of_bind h
  · exact exists_ok_of_bind h
  · exact absurd htag (by decide)
  · exact absurd htag (by decide)
  · exact ⟨n, h⟩
  · cases h

theorem exists_buildBranches_tail {e : Element} {branches : List Element} {parts : List (Formula × Node) × List Node}
    (h : buildBranches l expand scope (e :: branches) = .ok parts) :
    ∃ rest, buildBranches l expand scope branches = .ok rest := by
  cases e with
  | text s =>
    rw [buildBranches] at h
    exact ⟨parts, h⟩
  | element tag attrs children =>
    rw [buildBranches] at h
    split_ifs at h
    · obtain ⟨test, -, h⟩ := except_bind_eq_ok.1 h
      obtain ⟨body, -, h⟩ := except_bind_eq_ok.1 h
      obtain ⟨formula, -, h⟩ := except_bind_eq_ok.1 h
      exact exists_ok_of_bind h
    · obtain ⟨body, -, h⟩ := except_bind_eq_ok.1 h
      exact exists_ok_of_bind h
    · exact ⟨parts, h⟩

theorem exists_buildBranch {branches : List Element} {parts : List (Formula × Node) × List Node}
    (h : buildBranches l expand scope branches = .ok parts) {tag : String} {attrs : Table String String}
    {children : List Element} (hmem : .element tag attrs children ∈ branches) (htag : tag ∈ branchTags) :
    ∃ m, buildBody l expand scope children = .ok m := by
  induction branches generalizing parts with
  | nil => exact absurd hmem List.not_mem_nil
  | cons e branches ih =>
    rcases List.mem_cons.1 hmem with rfl | hmem
    · rw [buildBranches] at h
      split_ifs at h with hwhen hotherwise
      · obtain ⟨test, -, h⟩ := except_bind_eq_ok.1 h
        exact exists_ok_of_bind h
      · exact exists_ok_of_bind h
      · rw [branchTags, List.mem_cons, List.mem_cons, List.mem_singleton, ← or_assoc] at htag
        exact absurd htag (not_or.2 ⟨hwhen, hotherwise⟩)
    · obtain ⟨rest, hrest⟩ := exists_buildBranches_tail h
      exact ih hrest hmem

theorem exists_includeAt (h : buildBody l expand scope body = .ok n) {e : Element} (hmet : Meets body e) :
    ∃ m, includeAt l expand scope e = .ok m := by
  induction hmet generalizing n with
  | @here body e he htag =>
    obtain ⟨m, hm⟩ := exists_buildElement h e he
    cases e with
    | text s => cases htag
    | element tag attrs children =>
      obtain rfl := Option.some.inj htag
      rw [buildElement.eq_def] at hm
      exact ⟨m, hm⟩
  | inside helement htag hmet ih =>
    obtain ⟨m, hm⟩ := exists_buildElement h _ helement
    obtain ⟨m', hm'⟩ := exists_buildBody htag hm
    exact ih hm'
  | branch hchoose helement htag hmet ih =>
    obtain ⟨m, hm⟩ := exists_buildElement h _ hchoose
    rw [buildElement.eq_def] at hm
    obtain ⟨parts, hparts, -⟩ := except_bind_eq_ok.1 hm
    obtain ⟨m', hm'⟩ := exists_buildBranch hparts helement htag
    exact ih hm'

theorem isStepwise_failsWith {E : TemplateError → Prop} (hE : ∀ error, error.IsLocal → E error) :
    IsStepwise fun _ r _ => FailsWith E r :=
  ⟨fun {_ _} h error herror => hE error (h error herror), .bind⟩

/-- If the error is a circular include of the fragment, an include that is met fails with it. -/
def IsFound (l : Library) (expand : BuildScope → List Element → Build Node) (scope : BuildScope) (body : List Element)
    (id : String) (error : TemplateError) : Prop :=
  error = .circularInclude id → ∃ e, Meets body e ∧ includeAt l expand scope e = .error error

theorem exists_meets_of_circular (h : buildBody l expand scope body = .error (.circularInclude id)) :
    ∃ e, Meets body e ∧ includeAt l expand scope e = .error (.circularInclude id) := by
  have hE : IsStepwise fun _ r _ => FailsWith (IsFound l expand scope body id) r :=
    isStepwise_failsWith fun error hlocal heq => absurd heq (hlocal id).2
  have hincludes : RelatesIncludes (fun _ r _ => FailsWith (IsFound l expand scope body id) r) l l expand expand
      scope body := fun e hmet error herror _ => ⟨e, hmet, herror⟩
  exact hE.buildBody hincludes _ h rfl

theorem buildBody_ne_ok_of_mem {e : Element} (hmet : Meets body e) (hid : e.requiredAttr ⟨vars, []⟩ "refid" = .ok id)
    (hmem : id ∈ includes) : buildBody l expand ⟨vars, includes⟩ body ≠ .ok n := by
  intro hbuild
  obtain ⟨m, hm⟩ := exists_includeAt hbuild hmet
  rw [includeAt_eq hid, if_pos hmem] at hm
  cases hm

end Failure

/-! ### Cycles -/

/-- Where nested includes come back to a fragment, nothing is built. -/
theorem expand_ne_ok (hexpand : IsExpansion l expand) (h : Nested l vars body ids) (hincludes : includes.Nodup)
    (hcycle : ¬ (ids ++ includes).Nodup) (n : Node) : expand ⟨vars, includes⟩ body ≠ .ok n := by
  -- on the chain: the fragments that are passed go over to those that the place is in
  induction h generalizing includes n with
  | @last vars body id e hmet hid =>
    rw [hexpand]
    apply buildBody_ne_ok_of_mem hmet hid
    by_contra hnew
    exact hcycle (List.nodup_cons.2 ⟨hnew, hincludes⟩)
  | @next vars vars' body inner id ids hleads hids ih =>
    rw [hexpand]
    by_cases hmem : id ∈ includes
    · obtain ⟨hmet, hid, -, -⟩ := hleads
      exact buildBody_ne_ok_of_mem hmet hid hmem
    · intro hbuild
      obtain ⟨e, hmet, hincluded⟩ := hleads.exists_includeAt hmem
      obtain ⟨m, hm⟩ := exists_includeAt hbuild hmet
      rw [hincluded] at hm
      refine ih (List.nodup_cons.2 ⟨hmem, hincludes⟩) (fun hnodup => hcycle ?_) m hm
      exact List.perm_middle.nodup_iff.1 hnodup

/-- A circular include is refused only where nested includes come back to a fragment, or to one that the place is
in. -/
theorem exists_nested_of_circular (hexpand : IsExpansion l expand) (place : Place)
    (h : expand place.scope place.body = .error (.circularInclude id)) :
    ∃ ids, Nested l place.scope.vars place.body (ids ++ [id]) ∧ (id ∈ ids ∨ id ∈ place.scope.includes) := by
  -- the error comes from an include of the body, or from the fragment that is built there
  induction place using l.wellFounded_expands.induction with
  | h place ih =>
    obtain ⟨⟨vars, includes⟩, body⟩ := place
    rw [hexpand] at h
    obtain ⟨e, hmet, hincluded⟩ := exists_meets_of_circular h
    rcases includeAt_cases l vars includes hmet with
      ⟨error, hne, hcase⟩ | ⟨id', hid, hmem, hcase⟩ | ⟨id', vars', inner, hleads, hnew, hcase⟩
    · exact absurd (Except.error.inj ((hcase expand).symm.trans hincluded)) (hne id)
    · obtain rfl := TemplateError.circularInclude.inj (Except.error.inj ((hcase expand).symm.trans hincluded))
      exact ⟨[], .last hmet hid, .inr hmem⟩
    · obtain ⟨ids, hids, hmem⟩ := ih ⟨⟨vars', id' :: includes⟩, inner⟩ (.intro hleads hnew)
        ((hcase expand).symm.trans hincluded)
      refine ⟨id' :: ids, .next hleads hids, ?_⟩
      rcases hmem with hmem | hmem
      · exact .inl (List.mem_cons_of_mem _ hmem)
      · rcases List.mem_cons.1 hmem with rfl | hmem
        · exact .inl (List.mem_cons_self ..)
        · exact .inr hmem

/-- Including terminates, and it finds exactly the cycles. There is one way to build in which what is included is built
in the same way, without any bound, as going on from place to place comes to an end; and it is the way in which a body
is built. No place is in a fragment twice. If nested includes come back to a fragment, building fails; and it fails for
a circular include only if nested includes come back to this fragment. What is included is what the reference stands
for with the variables of the place, and there the properties given with the include come before these. -/
theorem build_includes (l : Library) (body : List Element) :
    (WellFounded fun inner outer => Expands l outer inner) ∧
    (∃ expand, IsExpansion l expand ∧ (∀ expand', IsExpansion l expand' → expand' = expand) ∧
      l.build body = expand ⟨l.vars, []⟩ body) ∧
    (∀ place, Relation.ReflTransGen (Expands l) ⟨⟨l.vars, []⟩, body⟩ place → place.scope.includes.Nodup) ∧
    (∀ ids, Nested l l.vars body ids → ¬ ids.Nodup → ∃ error, l.build body = .error error) ∧
    (∀ id, l.build body = .error (.circularInclude id) → ∃ ids, Nested l l.vars body (ids ++ [id]) ∧ id ∈ ids) ∧
    ∀ vars outer id vars' inner, Leads l vars outer id vars' inner →
      ∃ e, Meets outer e ∧ (e.attr? "refid").map (substitute vars) = some id ∧ l.fragments.find? id = some inner ∧
        ∀ name, vars'.find? name =
          (lastGiven? (e.children.filterMap (property? vars)) name).or (vars.find? name) := by
  have hexpand := isExpansion_buildWithin l
  refine ⟨l.wellFounded_expands, ⟨_, hexpand, fun _ h => h.unique hexpand, rfl⟩, ?_, ?_, ?_, ?_⟩
  · intro place hplace
    exact nodup_of_expands hplace List.nodup_nil
  · intro ids hids hcycle
    rw [← List.append_nil ids] at hcycle
    cases hbuild : l.build body with
    | error error => exact ⟨error, rfl⟩
    | ok n => exact absurd hbuild (expand_ne_ok hexpand hids List.nodup_nil hcycle n)
  · intro id hbuild
    obtain ⟨ids, hids, hmem⟩ := exists_nested_of_circular hexpand ⟨⟨l.vars, []⟩, body⟩ hbuild
    exact ⟨ids, hids, hmem.resolve_right List.not_mem_nil⟩
  · exact fun _ _ _ _ _ hleads => hleads.exists_include

/-- A property that is given with an include. -/
def nextIs (id : String) : Element := .element "property" [("name", "next"), ("value", id)] []

/-- Two fragments: the first one includes the second, and tells it what to include. -/
def entangled : Library := ⟨[], [("a", [inclusion "b" [nextIs "a"]]), ("b", [inclusion "$\x7bnext\x7d" []])]⟩

theorem includedVariables_nextIs {id : String} (hid : substitute [] id = id) :
    includedVariables ⟨[], []⟩ [nextIs id] = .ok [("next", id)] := by
  have hname : (nextIs id).requiredAttr ⟨[], []⟩ "name" = .ok "next" :=
    requiredAttr_eq_ok.2 (congrArg some (substitute_of_unopened (by simp) []))
  have hvalue : (nextIs id).requiredAttr ⟨[], []⟩ "value" = .ok id := requiredAttr_eq_ok.2 (congrArg some hid)
  have htag : (nextIs id).tag? = some "property" := rfl
  rw [includedVariables, List.foldlM_cons, if_pos htag, hname, hvalue]
  rfl

theorem substitute_next (id : String) : substitute [("next", id)] "$\x7bnext\x7d" = id := by
  have hsplits : Span.Splits [.token ['n', 'e', 'x', 't']] "$\x7bnext\x7d".toList :=
    .token (fun h => absurd (Option.some.inj h) (by decide)) rfl .nil
  rw [Span.substitute_of_splits hsplits, List.flatMap_singleton]
  exact String.ofList_toList

/-- The first of them is reached from itself, and nothing that includes it is built. -/
theorem build_includes_entangled :
    Nested entangled [] [inclusion "a" []] ["a", "b", "a"] ∧
      ∃ error, entangled.build [inclusion "a" []] = .error error := by
  have ha : substitute [] "a" = "a" := substitute_of_unopened (by simp) []
  have hb : substitute [] "b" = "b" := substitute_of_unopened (by simp) []
  have hmeets : ∀ id properties, Meets [inclusion id properties] (inclusion id properties) :=
    fun _ _ => .here (.head _) rfl
  have hfirst : Leads entangled [] [inclusion "a" []] "a" [] [inclusion "b" [nextIs "a"]] :=
    .intro (hmeets "a" []) (requiredAttr_inclusion ha [] []) rfl rfl
  have hsecond : Leads entangled [] [inclusion "b" [nextIs "a"]] "b" [("next", "a")] [inclusion "$\x7bnext\x7d" []] :=
    .intro (hmeets "b" _) (requiredAttr_inclusion hb [] _) rfl (includedVariables_nextIs ha)
  have hlast : Nested entangled [("next", "a")] [inclusion "$\x7bnext\x7d" []] ["a"] :=
    .last (hmeets _ []) (requiredAttr_eq_ok.2 (congrArg some (substitute_next "a")))
  have hnested : Nested entangled [] [inclusion "a" []] ["a", "b", "a"] := .next hfirst (.next hsecond hlast)
  obtain ⟨-, -, -, hcycle, -⟩ := build_includes entangled [inclusion "a" []]
  exact ⟨hnested, hcycle _ hnested (by decide)⟩

end Library

end DynamicSql
