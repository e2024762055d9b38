import DynamicSql.Proofs.Entries
import DynamicSql.Proofs.Step
import DynamicSql.Template.Build

/-!
# Included fragments

Building a template looks at a library only where something is included, so what holds of the includes that it comes to
holds of the template (`Element.IsStepwise.buildBody`). A library with more fragments builds the same template, unless
the smaller one does not know a fragment that the larger one has (`Library.Le.agrees_build`). The depth to which
includes are followed plays no part: a fragment that is entered is one that the place was not in, and there are no more
than the library has. In an included fragment the properties given with the include hold, and otherwise what holds at
its place (`Element.find?_includedVariables`).
-/

namespace DynamicSql

open Step

namespace Element

@[induction_eliminator]
theorem induct {motive : Element → Prop} (text : ∀ s, motive (text s))
    (element : ∀ tag attrs children, (∀ e ∈ children, motive e) → motive (element tag attrs children)) :
    ∀ e, motive e :=
  @Element.rec motive (fun children => ∀ e ∈ children, motive e) text element nofun
    (fun _ _ he hrest => List.forall_mem_cons.2 ⟨he, hrest⟩)

/-! ### Includes that are met -/

/-- The elements whose content is built as a body. -/
def bodyTags : List String := ["if", "when", "foreach", "trim", "where", "set", "otherwise"]

/-- The parts of a choice that are built. -/
def branchTags : List String := ["when", "if", "otherwise"]

/-- Building a body comes to the include: it stands in the body, or in the content of an element of it that is
built. -/
inductive Meets : List Element → Element → Prop
  | here {body : List Element} {e : Element} (he : e ∈ body) (htag : e.tag? = some "include") : Meets body e
  | inside {body children : List Element} {tag : String} {attrs : Table String String} {e : Element}
      (helement : element tag attrs children ∈ body) (htag : tag ∈ bodyTags) (he : Meets children e) : Meets body e
  | branch {body branches children : List Element} {tag : String} {attrs attrs' : Table String String} {e : Element}
      (hchoose : element "choose" attrs branches ∈ body) (helement : element tag attrs' children ∈ branches)
      (htag : tag ∈ branchTags) (he : Meets children e) : Meets body e

theorem Meets.mono {body body' : List Element} {e : Element} (h : Meets body e) (hsub : body ⊆ body') :
    Meets body' e := by
  cases h with
  | here he htag => exact .here (hsub he) htag
  | inside helement htag he => exact .inside (hsub helement) htag he
  | branch hchoose helement htag he => exact .branch (hsub hchoose) helement htag he

/-! ### Building step by step -/

end Element

/-- The error is about an element itself, and not about a fragment. -/
def TemplateError.IsLocal (e : TemplateError) : Prop :=
  ∀ id, e ≠ .unknownFragment id ∧ e ≠ .circularInclude id

namespace Element

open TemplateError

theorem failsWith_requiredAttr (scope : BuildScope) (e : Element) (name : String) :
    FailsWith IsLocal (e.requiredAttr scope name) := by
  rw [requiredAttr]
  split
  · exact .ok _
  · exact .error fun id => ⟨by simp, by simp⟩

theorem failsWith_formula (source : String) : FailsWith IsLocal (Node.formula source) :=
  .mapError (fun _ id => ⟨by simp, by simp⟩) _

theorem failsWith_chooseOne (whens : List (Formula × Node)) (otherwise : List Node) :
    FailsWith IsLocal (Node.chooseOne whens otherwise) := by
  rw [Node.chooseOne.eq_def]
  split
  · exact .ok _
  · exact .ok _
  · exact .error fun id => ⟨by simp, by simp⟩

theorem failsWith_includedVariables (scope : BuildScope) (children : List Element) :
    FailsWith IsLocal (includedVariables scope children) := by
  refine .foldlM (fun vars child => ?_) children scope.vars
  split
  · exact (failsWith_requiredAttr _ _ _).bind fun name => (failsWith_requiredAttr _ _ _).bind fun value => .ok _
  · exact .ok _

/-- A relation between two results of building, of which nothing but includes can make a difference: it holds of a
result and itself, if that does not fail for a fragment, and goes on from one step to the next. -/
structure IsStepwise (R : (α : Type) → Build α → Build α → Prop) : Prop where
  self : ∀ {α : Type} {r : Build α}, FailsWith IsLocal r → R α r r
  bind : ∀ {α β : Type} {r₀ r : Build α} {k₀ k : α → Build β}, R α r₀ r → (∀ a, R β (k₀ a) (k a)) →
    R β (r₀ >>= k₀) (r >>= k)

section Elements

variable {R : (α : Type) → Build α → Build α → Prop} {l₀ l : Library}
  {expand₀ expand : BuildScope → List Element → Build Node} {scope : BuildScope}

theorem IsStepwise.buildAll (hR : IsStepwise R) {body : List Element}
    (h : ∀ e ∈ body, R Node (buildElement l₀ expand₀ scope e) (buildElement l expand scope e)) :
    R _ (buildAll l₀ expand₀ scope body) (buildAll l expand scope body) := by
  induction body with
  | nil =>
    rw [Element.buildAll, Element.buildAll]
    exact hR.self (.ok _)
  | cons e body ih =>
    obtain ⟨he, hbody⟩ := List.forall_mem_cons.1 h
    rw [Element.buildAll, Element.buildAll]
    exact hR.bind he fun n => hR.bind (ih hbody) fun ns => hR.self (.ok _)

theorem IsStepwise.buildBranches (hR : IsStepwise R) {branches : List Element}
    (h : ∀ tag attrs children, element tag attrs children ∈ branches → tag ∈ branchTags →
      R Node (buildBody l₀ expand₀ scope children) (buildBody l expand scope children)) :
    R _ (buildBranches l₀ expand₀ scope branches) (buildBranches l expand scope branches) := by
  induction branches with
  | nil =>
    rw [Element.buildBranches, Element.buildBranches]
    exact hR.self (.ok _)
  | cons e branches ih =>
    have ih := ih fun tag attrs children hmem => h tag attrs children (List.mem_cons_of_mem _ hmem)
    cases e with
    | text s =>
      rw [Element.buildBranches, Element.buildBranches]
      exact ih
    | element tag attrs children =>
      have hbody := h tag attrs children (List.mem_cons_self ..)
      rw [Element.buildBranches, Element.buildBranches]
      split_ifs with hwhen hotherwise
      · refine hR.bind (hR.self (failsWith_requiredAttr _ _ _)) fun test => hR.bind (hbody ?_) fun body =>
          hR.bind (hR.self (failsWith_formula test)) fun formula => hR.bind ih fun parts => hR.self (.ok _)
        rcases hwhen with rfl | rfl <;> decide
      · refine hR.bind (hbody ?_) fun body => hR.bind ih fun parts => hR.self (.ok _)
        rw [hotherwise]
        decide
      · exact ih

/-- The relation holds of the includes that building a body comes to. -/
def RelatesIncludes (R : (α : Type) → Build α → Build α → Prop) (l₀ l : Library)
    (expand₀ expand : BuildScope → List Element → Build Node) (scope : BuildScope) (body : List Element) : Prop :=
  ∀ e, Meets body e → R Node (includeAt l₀ expand₀ scope e) (includeAt l expand scope e)

theorem RelatesIncludes.mono {body body' : List Element} (h : RelatesIncludes R l₀ l expand₀ expand scope body')
    (hsub : body ⊆ body') : RelatesIncludes R l₀ l expand₀ expand scope body :=
  fun e he => h e (he.mono hsub)

theorem IsStepwise.buildBody_of_elements (hR : IsStepwise R) {body : List Element}
    (helements : ∀ e ∈ body, RelatesIncludes R l₀ l expand₀ expand scope [e] →
      R Node (buildElement l₀ expand₀ scope e) (buildElement l expand scope e))
    (h : RelatesIncludes R l₀ l expand₀ expand scope body) :
    R Node (buildBody l₀ expand₀ scope body) (buildBody l expand scope body) := by
  rw [buildBody, buildBody]
  refine hR.bind (hR.buildAll fun e he => helements e he (h.mono ?_)) fun ns => hR.self (.ok _)
  exact List.cons_subset.2 ⟨he, List.nil_subset _⟩

theorem IsStepwise.buildElement (hR : IsStepwise R) (e : Element)
    (h : RelatesIncludes R l₀ l expand₀ expand scope [e]) :
    R Node (buildElement l₀ expand₀ scope e) (buildElement l expand scope e) := by
  -- the branches of a choice are built as bodies, without the elements that they stand in
  suffices (RelatesIncludes R l₀ l expand₀ expand scope [e] →
        R Node (Element.buildElement l₀ expand₀ scope e) (Element.buildElement l expand scope e)) ∧
      (RelatesIncludes R l₀ l expand₀ expand scope e.children →
        R Node (buildBody l₀ expand₀ scope e.children) (buildBody l expand scope e.children)) from this.1 h
  clear h
  induction e with
  | text s =>
    refine ⟨fun _ => ?_, hR.buildBody_of_elements (List.forall_mem_nil _)⟩
    rw [Element.buildElement, Element.buildElement]
    exact hR.self (.ok _)
  | element tag attrs children ih =>
    have hcontent := hR.buildBody_of_elements fun e he => (ih e he).1
    refine ⟨fun h => ?_, hcontent⟩
    have hinside : tag ∈ bodyTags →
        R Node (buildBody l₀ expand₀ scope children) (buildBody l expand scope children) :=
      fun htag => hcontent fun i hi => h i (.inside (List.mem_singleton_self _) htag hi)
    rw [Element.buildElement.eq_def, Element.buildElement.eq_def l]
    dsimp only
    split
    · exact hR.bind (hR.self (failsWith_requiredAttr _ _ _)) fun test => hR.bind (hinside (by decide)) fun body =>
        hR.self ((failsWith_formula test).bind fun _ => .ok _)
    · exact hR.bind (hR.self (failsWith_requiredAttr _ _ _)) fun test => hR.bind (hinside (by decide)) fun body =>
        hR.self ((failsWith_formula test).bind fun _ => .ok _)
    · refine hR.bind (hR.buildBranches fun tag attrs' children' hmem htag => (ih _ hmem).2 fun i hi => ?_)
        fun parts => hR.self (failsWith_chooseOne _ _)
      exact h i (.branch (List.mem_singleton_self _) hmem htag hi)
    · exact hR.bind (hR.self (failsWith_requiredAttr _ _ _)) fun collection => hR.bind (hinside (by decide)) fun body =>
        hR.self ((failsWith_formula collection).bind fun _ => .ok _)
    · exact hR.bind (hinside (by decide)) fun body => hR.self (.ok _)
    · exact hR.bind (hinside (by decide)) fun body => hR.self (.ok _)
    · exact hR.bind (hinside (by decide)) fun body => hR.self (.ok _)
    · exact hR.self ((failsWith_requiredAttr _ _ _).bind fun name => (failsWith_requiredAttr _ _ _).bind fun value =>
        (failsWith_formula value).bind fun _ => .ok _)
    · exact h _ (.here (List.mem_singleton_self _) rfl)
    · exact hinside (by decide)
    · exact hR.self (.error fun id => ⟨by simp, by simp⟩)

/-- What holds of the includes that are met holds of the whole body. -/
theorem IsStepwise.buildBody (hR : IsStepwise R) {body : List Element}
    (h : RelatesIncludes R l₀ l expand₀ expand scope body) :
    R Node (buildBody l₀ expand₀ scope body) (buildBody l expand scope body) :=
  hR.buildBody_of_elements (fun e _ => hR.buildElement e) h

/-! ### Two ways to build -/

variable {α β : Type} {Q : String → Prop}

/-- The first result is the second one, unless it fails for a fragment with `Q` that it does not know. -/
def AgreesUnless (Q : String → Prop) (r₀ r : Build α) : Prop :=
  r₀ = r ∨ ∃ id, Q id ∧ r₀ = .error (.unknownFragment id)

theorem AgreesUnless.refl (r : Build α) : AgreesUnless Q r r := .inl rfl

theorem AgreesUnless.bind {r₀ r : Build α} {k₀ k : α → Build β} (hr : AgreesUnless Q r₀ r)
    (hk : ∀ a, AgreesUnless Q (k₀ a) (k a)) : AgreesUnless Q (r₀ >>= k₀) (r >>= k) := by
  rcases hr with rfl | ⟨id, hid, rfl⟩
  · cases r₀ with
    | ok a => exact hk a
    | error e => exact .refl _
  · exact .inr ⟨id, hid, rfl⟩

theorem isStepwise_agreesUnless (Q : String → Prop) : IsStepwise fun _ => AgreesUnless Q :=
  ⟨fun {_ _} _ => .refl _, .bind⟩

/-! ### The variables of an included fragment -/

theorem requiredAttr_eq_ok {scope : BuildScope} {e : Element} {name v : String} :
    e.requiredAttr scope name = .ok v ↔ e.attrIn? scope name = some v := by
  rw [requiredAttr]
  cases e.attrIn? scope name with
  | none => exact ⟨fun h => (by cases h), fun h => (by cases h)⟩
  | some w => exact ⟨fun h => congrArg some (Except.ok.inj h), fun h => congrArg Except.ok (Option.some.inj h)⟩

/-- The name and the value of a property, with the variables put in. -/
def property? (vars : Table String String) (e : Element) : Option (String × String) :=
  if e.tag? = some "property" then
    match (e.attr? "name").map (substitute vars), (e.attr? "value").map (substitute vars) with
    | some name, some value => some (name, value)
    | _, _ => none
  else none

theorem find?_includedVariables {scope : BuildScope} {children : List Element} {vars : Table String String}
    (h : includedVariables scope children = .ok vars) (name : String) :
    vars.find? name = (lastGiven? (children.filterMap (property? scope.vars)) name).or (scope.vars.find? name) := by
  rw [includedVariables] at h
  induction children using List.reverseRecOn generalizing vars with
  | nil =>
    obtain rfl := Except.ok.inj h
    rfl
  | append_singleton children child ih =>
    rw [List.foldlM_append] at h
    obtain ⟨before, hbefore, h⟩ := except_bind_eq_ok.1 h
    rw [List.foldlM_cons] at h
    obtain ⟨after, hchild, h⟩ := except_bind_eq_ok.1 h
    obtain rfl := Except.ok.inj h
    have ih := ih hbefore
    rw [filterMap_concat, property?]
    split_ifs at hchild ⊢ with htag
    · obtain ⟨key, hkey, hchild⟩ := except_bind_eq_ok.1 hchild
      obtain ⟨value, hvalue, hchild⟩ := except_bind_eq_ok.1 hchild
      obtain rfl := Except.ok.inj hchild
      rw [show (child.attr? "name").map (substitute scope.vars) = some key from requiredAttr_eq_ok.1 hkey,
        show (child.attr? "value").map (substitute scope.vars) = some value from requiredAttr_eq_ok.1 hvalue]
      rw [Option.toList_some, lastGiven?_concat]
      split_ifs with hname
      · rw [hname, Table.find?_insert_self]
        rfl
      · rw [Table.find?_insert_of_ne _ _ hname, ih]
    · obtain rfl := Except.ok.inj hchild
      rw [ih, Option.toList_none, List.append_nil]

/-! ### What is included -/

/-- An element that includes a fragment. -/
def inclusion (id : String) (properties : List Element) : Element :=
  .element "include" [("refid", id)] properties

variable {id : String} {vars : Table String String} {includes : List String}

theorem buildBody_text {s : String} (hs : substitute vars s = s) :
    buildBody l expand ⟨vars, includes⟩ [.text s] = .ok (.composite [.text s]) := by
  rw [buildBody, buildAll, buildElement, hs, buildAll]
  rfl

theorem requiredAttr_inclusion (hid : substitute vars id = id) (includes : List String) (properties : List Element) :
    (inclusion id properties).requiredAttr ⟨vars, includes⟩ "refid" = .ok id := by
  have hattr : (inclusion id properties).attrIn? ⟨vars, includes⟩ "refid" = some (substitute vars id) := rfl
  rw [requiredAttr, hattr, hid]

theorem buildBody_inclusion {fragment : List Element} (hid : substitute vars id = id) (hnew : id ∉ includes)
    (hfind : l.fragments.find? id = some fragment) :
    buildBody l expand ⟨vars, includes⟩ [inclusion id []] =
      (expand ⟨vars, id :: includes⟩ fragment).map fun n => .composite [n] := by
  have hincluded : includeAt l expand ⟨vars, includes⟩ (inclusion id []) =
      expand ⟨vars, id :: includes⟩ fragment := by
    rw [includeAt, requiredAttr_inclusion hid]
    refine (if_neg hnew).trans ?_
    rw [hfind]
    rfl
  rw [buildBody, buildAll, inclusion, buildElement.eq_def]
  dsimp only
  rw [← inclusion, hincluded, buildAll]
  cases expand ⟨vars, id :: includes⟩ fragment <;> rfl

end Elements

end Element

/-! ### Libraries with more fragments -/

namespace Library

open Element

variable {l₀ l : Library} {body : List Element}

/-- The second library has all that the first one has. -/
structure Le (l₀ l : Library) : Prop where
  vars : l₀.vars = l.vars
  fragments : ∀ id body, l₀.fragments.find? id = some body → l.fragments.find? id = some body

theorem Le.refl (l : Library) : Le l l := ⟨rfl, fun _ _ => id⟩

theorem Le.trans {l' : Library} (h : Le l₀ l) (h' : Le l l') : Le l₀ l' :=
  ⟨h.vars.trans h'.vars, fun id body hbody => h'.fragments id body (h.fragments id body hbody)⟩

/-- The second library has a fragment that the first one lacks. -/
def Lacks (l₀ l : Library) (id : String) : Prop := l₀.fragments.find? id = none ∧ l.fragments.find? id ≠ none

/-- How many fragments there are apart from those that a place is in. -/
def remaining (l : Library) (includes : List String) : Nat :=
  (l.fragments.keys.filter fun id => id ∉ includes).length

theorem remaining_le (l : Library) (includes : List String) : l.remaining includes ≤ l.fragments.length := by
  have hlength : l.fragments.keys.length = l.fragments.length := List.length_map _
  exact hlength ▸ List.length_filter_le _ _

theorem remaining_cons_lt {includes : List String} {id : String} (hnew : id ∉ includes)
    (hknown : l.fragments.find? id ≠ none) : l.remaining (id :: includes) < l.remaining includes := by
  have hfilter : (l.fragments.keys.filter fun key => key ∉ id :: includes) =
      (l.fragments.keys.filter fun key => key ∉ includes).filter fun key => key ≠ id := by
    rw [List.filter_filter]
    refine List.filter_congr fun key _ => ?_
    simp
  obtain ⟨fragment, hfind⟩ := Option.ne_none_iff_exists'.1 hknown
  have hmem : id ∈ l.fragments.keys.filter fun key => key ∉ includes :=
    List.mem_filter.2 ⟨Table.mem_keys_of_find? hfind, decide_eq_true hnew⟩
  rw [remaining, remaining, hfilter]
  exact List.length_filter_lt_length_iff_exists.2 ⟨id, hmem, by simp⟩

theorem Le.agrees_buildWithin (h : Le l₀ l) {depth₀ depth : Nat} {scope : BuildScope}
    (hdepth₀ : l₀.remaining scope.includes < depth₀) (hdepth : l.remaining scope.includes < depth)
    (body : List Element) :
    AgreesUnless (Lacks l₀ l) (buildWithin l₀ depth₀ scope body) (buildWithin l depth scope body) := by
  induction depth₀ generalizing depth scope body with
  | zero => exact absurd hdepth₀ (Nat.not_lt_zero _)
  | succ depth₀ ih =>
    cases depth with
    | zero => exact absurd hdepth (Nat.not_lt_zero _)
    | succ depth =>
      rw [buildWithin, buildWithin]
      refine (isStepwise_agreesUnless _).buildBody fun e _ => ?_
      rw [includeAt, includeAt]
      refine .bind (.refl _) fun id => ?_
      split_ifs with hid
      · exact .refl _
      cases hfind₀ : l₀.fragments.find? id with
      | none =>
        cases hfind : l.fragments.find? id with
        | none => exact .refl _
        | some fragment => exact .inr ⟨id, ⟨hfind₀, hfind ▸ Option.some_ne_none _⟩, rfl⟩
      | some fragment =>
        have hfind := h.fragments id fragment hfind₀
        have hlt₀ := remaining_cons_lt hid (hfind₀ ▸ Option.some_ne_none fragment)
        have hlt := remaining_cons_lt hid (hfind ▸ Option.some_ne_none fragment)
        rw [hfind]
        refine .bind (.refl _) fun vars => ih ?_ ?_ fragment
        · exact Nat.lt_of_lt_of_le hlt₀ (Nat.lt_succ_iff.1 hdepth₀)
        · exact Nat.lt_of_lt_of_le hlt (Nat.lt_succ_iff.1 hdepth)

/-- A library with more fragments builds the same, unless the smaller one lacks a fragment. -/
theorem Le.agrees_build (h : Le l₀ l) (body : List Element) :
    AgreesUnless (Lacks l₀ l) (l₀.build body) (l.build body) := by
  rw [build, build, h.vars]
  exact h.agrees_buildWithin (Nat.lt_succ_of_le (remaining_le l₀ [])) (Nat.lt_succ_of_le (remaining_le l [])) body

theorem Le.build_of_ok (h : Le l₀ l) {n : Node} (hbuild : l₀.build body = .ok n) : l.build body = .ok n := by
  rcases h.agrees_build body with heq | ⟨id, -, herror⟩
  · exact heq ▸ hbuild
  · cases hbuild.symm.trans herror

theorem Le.build_of_unknown (h : Le l₀ l) {id : String} (hbuild : l₀.build body = .error (.unknownFragment id))
    (hid : l.fragments.find? id = none) : l.build body = .error (.unknownFragment id) := by
  rcases h.agrees_build body with heq | ⟨id', hlacks, herror⟩
  · exact heq ▸ hbuild
  · cases hbuild.symm.trans herror
    exact absurd hid hlacks.2

theorem Le.exists_lacks (h : Le l₀ l) {n : Node} (hbuild : l.build body = .ok n)
    (hbuild₀ : l₀.build body ≠ .ok n) :
    ∃ id, Lacks l₀ l id ∧ l₀.build body = .error (.unknownFragment id) := by
  rcases h.agrees_build body with heq | hlacks
  · exact absurd (heq.trans hbuild) hbuild₀
  · exact hlacks

end Library

end DynamicSql
