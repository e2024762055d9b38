import DynamicSql.Proofs.Mapper.ContextReads
import DynamicSql.Proofs.Parameter.Agreement
import DynamicSql.Proofs.Parameter.Evaluated
import DynamicSql.Proofs.Template.Lockstep

/-!
# Objects as arguments

A JSON object is an argument like the map that it stands for. Names are looked up in the object one by one, the
types of parameters are inferred without it, and for binding it is made a map as a whole; the only thing that shows
the object itself is the variable of the argument. Where neither the formulas of a template nor the placeholders of
the rendered text mention that variable, the object and the map are indistinguishable
(`MappedStatement.indistinguishable_object`).
-/

namespace DynamicSql

open Step

/-- The property is a path, and this is its first lookup key. -/
def Path.Begins (key property : String) : Prop :=
  ∃ path rest, Path.parse property = .ok path ∧ path.keys = key :: rest

/-! ### Types inferred from documents -/

namespace DataType

theorem step?_of_schemaless {t : DataType} (ht : t.schema? = none) {s : Segment} (hs : s.keys ≠ []) :
    t.step? s = none ∨ t.step? s = some .any := by
  obtain ⟨name, index⟩ := s
  cases index with
  | none =>
    have hname : ¬ name.isEmpty = true := fun hempty => hs (by simp [Segment.keys, hempty])
    rw [Value.step?_name, if_neg hname, ht]
    exact .inl rfl
  | some index =>
    cases hstep : t.step? ⟨name, some index⟩ with
    | none => exact .inl rfl
    | some u => exact .inr (congrArg some (Value.eq_any_of_step?_index hstep))

theorem getD_foldlM_step? {t : DataType} (ht : t.schema? = none) {segments : List Segment} (hne : segments ≠ [])
    (h : ∀ s ∈ segments, s.keys ≠ []) : (segments.foldlM step? t).getD .any = .any := by
  induction segments generalizing t with
  | nil => exact absurd rfl hne
  | cons s segments ih =>
    obtain ⟨hs, hsegments⟩ := List.forall_mem_cons.1 h
    rw [List.foldlM_cons]
    rcases step?_of_schemaless ht hs with hstep | hstep
    · rw [hstep]
      rfl
    · rw [hstep]
      cases segments with
      | nil => rfl
      | cons s' segments => exact ih (t := .any) rfl (List.cons_ne_nil _ _) hsegments

theorem property?_json {text : String} {path : Path} (h : Path.parse text = .ok path) :
    (DataType.json.property? path).getD .any = .any := by
  obtain ⟨raw, hraw⟩ := Path.segments_of_parse h
  have hsegments : ∀ s ∈ path.segments, s.keys ≠ [] :=
    forall_mem_of_forall₂ ((mapM_eq_ok.1 hraw).imp fun _ _ => Path.keys_ne_nil_of_segment?)
  obtain ⟨key, rest, hkeys⟩ := Path.exists_keys_of_parse h
  have hne : path.segments ≠ [] := by
    intro hnil
    rw [Path.keys, hnil] at hkeys
    cases hkeys
  exact getD_foldlM_step? (t := .json) rfl hne hsegments

end DataType

namespace Resolver

variable {r r₁ r₂ : Resolver}

theorem inferType_json (hdirect : r.registry.isDirect .json = false) (htype : r.argumentType = .json)
    {property : String} {path : Path} (hpath : Path.parse property = .ok path) (sqlType : Option SqlType) :
    r.inferType property sqlType =
      ((Value.map r.bindings).typeAt? path).getD (if sqlType = some .cursor then .cursor else .any) := by
  rw [inferType, hpath]
  dsimp only
  cases (Value.map r.bindings).typeAt? path with
  | some t => rfl
  | none =>
    rw [htype, hdirect, if_neg Bool.false_ne_true]
    dsimp only
    rw [DataType.property?_json hpath]
    rfl

theorem resolve_congr {sql : String}
    (h : ∀ body ∈ placeholdersIn sql, r₁.parameter (String.ofList body) = r₂.parameter (String.ofList body)) :
    r₁.resolve sql = r₂.resolve sql := by
  rw [resolve_eq, resolve_eq, mapM_congr]
  intro piece hpiece
  cases piece with
  | plain text => rfl
  | token body => rw [part, part, h body (List.mem_filterMap.2 ⟨_, hpiece, rfl⟩)]

end Resolver

/-- A placeholder of the text begins with this name. -/
def Rendered.Mentions (o : Rendered) (name : String) : Prop :=
  ∃ body ∈ placeholdersIn o.sql, ∃ placeholder, Placeholder.parse (String.ofList body) = .ok placeholder ∧
    Path.Begins name placeholder.property

theorem Rendered.not_begins_of_resolve {o : Rendered} {name : String} (ho : ¬ o.Mentions name) {r : Resolver}
    {b : BoundStatement} (hb : r.resolve o.sql = .ok b) : ∀ p ∈ b.parameters, ¬ Path.Begins name p.property := by
  intro p hp hbegins
  obtain ⟨body, hbody, hparameter⟩ := exists_mem_of_forall₂ (Resolver.forall₂_placeholdersIn hb).flip p hp
  obtain ⟨placeholder, hparse, hproperty⟩ := Resolver.exists_property_of_parameter hparameter
  exact ho ⟨body, hbody, placeholder, hparse, hproperty ▸ hbegins⟩

/-! ### Binding -/

namespace Binder

variable {hidden : String} {b₁ b₂ : BoundStatement} {argument₁ argument₂ : Value}

theorem bind_congr (hhidden : hidden ≠ "")
    (h : ∀ name ≠ hidden, b₁.bindings.find? name = b₂.bindings.find? name) (hmarkers : b₁.markers = b₂.markers)
    (hparameters : b₁.parameters = b₂.parameters) (hp : ∀ p ∈ b₁.parameters, ¬ Path.Begins hidden p.property)
    (hargument : navigable argument₁ = navigable argument₂) : bind b₁ argument₁ = bind b₂ argument₂ := by
  have hvalue : ∀ p ∈ b₁.parameters, ∀ registry argument,
      valueOf registry b₁ argument p = valueOf registry b₂ argument p := by
    refine fun p hmem => valueOf_congr fun path key rest hpath hkeys name hname => h name ?_
    rcases hname with rfl | rfl
    · exact hhidden.symm
    · exact fun heq => hp p hmem ⟨path, rest, hpath, heq ▸ hkeys⟩
  have halike : List.Forall₂ (BoundAlike b₁ b₂ (navigable argument₂)) b₁.parameters b₁.parameters :=
    List.forall₂_same.2 fun p hmem => ⟨rfl, fun _ => ⟨rfl, fun registry => hvalue p hmem registry _⟩⟩
  rw [bind, bind, BoundStatement.validate, BoundStatement.validate, hmarkers, ← hparameters, hargument,
    bindFrom_congr halike]

end Binder

/-! ### Making and binding a statement -/

/-- The statements, each bound to its argument, cannot be told apart: they have the same text with the same markers
and the same parameters, and binding writes the same or fails alike, whatever the binder remembers. -/
structure BoundStatement.SameFor (argument₁ argument₂ : Value) (b₁ b₂ : BoundStatement) : Prop where
  text : b₁.text = b₂.text
  markers : b₁.markers = b₂.markers
  parameters : b₁.parameters = b₂.parameters
  bind : Binder.bind b₁ argument₁ = Binder.bind b₂ argument₂

namespace MappedStatement

/-- The arguments are refused with the same error, or statements are made for them that cannot be told apart. -/
def Indistinguishable (make : Value → Except MapperError BoundStatement) (argument₁ argument₂ : Value) : Prop :=
  (∃ e, make argument₁ = .error e ∧ make argument₂ = .error e) ∨
    ∃ b₁ b₂, make argument₁ = .ok b₁ ∧ make argument₂ = .ok b₂ ∧
      BoundStatement.SameFor argument₁ argument₂ b₁ b₂

variable {s : MappedStatement} {n : Node} {fields : List (String × Json)} {databaseId : Option String}

theorem argumentProperty_object (fields : List (String × Json)) (name : String) :
    Frame.argumentProperty (.json (.object fields)) name =
      Frame.argumentProperty (Value.ofJson (.object fields)) name := by
  show Except.ok (((Json.field? fields name).map Value.ofJson).getD .null) =
    Except.ok ((Table.find? (Value.ofJsonFields fields) name).getD .null)
  rw [Binder.find?_ofJsonFields]

theorem boundAnew_of_render {registry : Registry} {aliases : Aliases} {argument : Value} {o : Rendered}
    (h : n.renderFor argument databaseId = .ok o) :
    s.boundAnew n registry aliases argument databaseId =
      ((Resolver.resolve ⟨registry, aliases, s.parameterType.getD argument.dataType, o.bindings⟩ o.sql).mapError
        (.binding s.id)).map (·.withBindings o.bindings) := by
  rw [boundAnew, bindTo]
  dsimp only
  rw [h]
  simp only [Except.mapError, Bind.bind, Except.bind]
  cases Resolver.resolve ⟨registry, aliases, s.parameterType.getD argument.dataType, o.bindings⟩ o.sql <;> rfl

theorem boundAnew_of_error {registry : Registry} {aliases : Aliases} {argument : Value} {e : TemplateError}
    (h : n.renderFor argument databaseId = .error e) :
    s.boundAnew n registry aliases argument databaseId = .error (.template s.id e) := by
  rw [boundAnew, bindTo]
  dsimp only
  rw [h]
  rfl

theorem parameter_object_eq {bindings₁ bindings₂ : Table String Value} (aliases : Aliases)
    (hbindings : ∀ name ≠ Frame.argumentKey, bindings₁.find? name = bindings₂.find? name) {body : String}
    (hbody : ∀ placeholder, Placeholder.parse body = .ok placeholder →
      ¬ Path.Begins Frame.argumentKey placeholder.property) :
    Resolver.parameter ⟨.defaults, aliases, .json, bindings₁⟩ body =
      Resolver.parameter ⟨.defaults, aliases, .map, bindings₂⟩ body := by
  refine Resolver.parameter_eq_of_inferType (by rfl) (by rfl) fun placeholder hparse sqlType => ?_
  have hjson : Registry.defaults.isDirect .json = false := by
    rw [Registry.isDirect_defaults]
    decide
  cases hpath : Path.parse placeholder.property with
  | error e => rw [Resolver.inferType, Resolver.inferType, hpath]
  | ok path =>
    obtain ⟨key, rest, hkeys⟩ := Path.exists_keys_of_parse hpath
    have hkey : bindings₁.find? key = bindings₂.find? key :=
      hbindings key fun heq => hbody placeholder hparse ⟨path, rest, hpath, heq ▸ hkeys⟩
    rw [Resolver.inferType_json hjson rfl hpath, Resolver.inferType_eq not_isDirect_map (.inl rfl) hpath,
      Value.typeAt?_congr hkeys hkey]

/-- A statement made anew is the same for an object and for its map. -/
theorem boundAnew_object (hs : s.parameterType = none) (hn : n.Avoids (· = Frame.argumentKey))
    (hplaceholders : ∀ o, n.renderFor (.json (.object fields)) databaseId = .ok o →
      ¬ o.Mentions Frame.argumentKey) (aliases : Aliases) :
    Indistinguishable (s.boundAnew n .defaults aliases · databaseId) (.json (.object fields))
      (Value.ofJson (.object fields)) := by
  rcases hn.renderFor_inStep (argumentProperty_object fields) databaseId with
    ⟨e, h₁, h₂⟩ | ⟨o₁, o₂, h₁, h₂, hsql, hbindings⟩
  · exact .inl ⟨_, boundAnew_of_error h₁, boundAnew_of_error h₂⟩
  · have hmentions := hplaceholders o₁ h₁
    have hresolve :
        Resolver.resolve ⟨.defaults, aliases, (Value.json (.object fields)).dataType, o₁.bindings⟩ o₁.sql =
          Resolver.resolve ⟨.defaults, aliases, (Value.ofJson (.object fields)).dataType, o₂.bindings⟩ o₁.sql := by
      refine Resolver.resolve_congr fun body hbody => parameter_object_eq aliases hbindings ?_
      exact fun placeholder hparse hbegins => hmentions ⟨body, hbody, placeholder, hparse, hbegins⟩
    unfold Indistinguishable
    dsimp only
    rw [boundAnew_of_render h₁, boundAnew_of_render h₂, hs, Option.getD_none, Option.getD_none, ← hsql, hresolve]
    cases hb : Resolver.resolve ⟨.defaults, aliases, (Value.ofJson (.object fields)).dataType, o₂.bindings⟩
        o₁.sql with
    | error e => exact .inl ⟨_, rfl, rfl⟩
    | ok b =>
      have hparameters := Rendered.not_begins_of_resolve hmentions hb
      refine .inr ⟨_, _, rfl, rfl, rfl, rfl, rfl, ?_⟩
      exact Binder.bind_congr (by decide) hbindings rfl rfl hparameters rfl

theorem bound_object_of_static (hn : n.isDynamic = false) (s : MappedStatement) (registry : Registry)
    (aliases : Aliases) (fields : List (String × Json)) (databaseId : Option String) :
    Indistinguishable (s.bound n registry aliases · databaseId) (.json (.object fields))
      (Value.ofJson (.object fields)) := by
  obtain ⟨sql, hsql⟩ := exists_sql_of_bound hn s registry aliases
  unfold Indistinguishable
  dsimp only
  rw [(hsql _ databaseId).1, (hsql _ databaseId).1]
  cases (s.resolverOnce registry aliases).resolve sql with
  | error e => exact .inl ⟨_, rfl, rfl⟩
  | ok b => exact .inr ⟨b, b, rfl, rfl, rfl, rfl, rfl, rfl⟩

theorem bound_of_dynamic (hn : n.isDynamic = true) (s : MappedStatement) (registry : Registry) (aliases : Aliases) :
    s.bound n registry aliases = s.boundAnew n registry aliases := by
  funext argument databaseId
  rw [bound, Source.ofTemplate, hn, if_pos rfl, boundAnew]
  rfl

/-- An object is an argument like the map that it stands for. Where the statement declares no type of its argument,
and neither a formula of its template nor a placeholder of the rendered text mentions the variable of the argument,
the statement made for the object and the one made for the map cannot be told apart: both are refused with the same
error, or both have the same text and the same parameters, and are bound to the same values. So it is for the
statement as the template asks for it to be made, and for the one that is made anew. -/
theorem indistinguishable_object (hs : s.parameterType = none) (hn : n.Avoids (· = Frame.argumentKey))
    (hplaceholders : ∀ o, n.renderFor (.json (.object fields)) databaseId = .ok o →
      ¬ o.Mentions Frame.argumentKey) (aliases : Aliases) :
    Indistinguishable (s.boundAnew n .defaults aliases · databaseId) (.json (.object fields))
        (Value.ofJson (.object fields)) ∧
      Indistinguishable (s.bound n .defaults aliases · databaseId) (.json (.object fields))
        (Value.ofJson (.object fields)) := by
  have hanew := boundAnew_object hs hn hplaceholders aliases
  refine ⟨hanew, ?_⟩
  cases hdynamic : n.isDynamic with
  | false => exact bound_object_of_static hdynamic s .defaults aliases fields databaseId
  | true =>
    rw [bound_of_dynamic hdynamic]
    exact hanew

/-- The id of a user, if the user is active. -/
def activeId : Node :=
  .conditional ⟨"user.active", .property (.name "user") "active"⟩ (.text "#\x7buser.id\x7d")

/-- A user inside a document. -/
def activeUser : List (String × Json) := [("user", .object [("active", .bool true), ("id", .int 7)])]

/-- The statement of the template. -/
def findActive : MappedStatement := ⟨"users.active", .select, none, none, .dynamic activeId⟩

theorem isPlain_user : Segment.IsPlain ⟨"user", none⟩ :=
  Segment.isPlain_of_name ⟨by decide, List.all_eq_true.1 (by decide)⟩

theorem isPathChar_userId {c : Char} (hc : c ∈ Path.written ⟨"user", none⟩ [⟨"id", none⟩]) : isPathChar c = true :=
  Path.isPathChar_of_mem_written isPlain_user isPlain_id hc

theorem activeId_mentions {o : Rendered} (ho : o.sql = "#\x7buser.id\x7d") : ¬ o.Mentions Frame.argumentKey := by
  have hbodies : placeholdersIn o.sql = [Path.written ⟨"user", none⟩ [⟨"id", none⟩]] := by
    rw [ho]
    exact placeholdersIn_token (Resolver.ne_of_forall_isPathChar fun _ => isPathChar_userId) rfl
  rintro ⟨body, hbody, placeholder, hplaceholder, path, rest, hbegins, hkeys⟩
  rw [hbodies] at hbody
  obtain rfl := List.mem_singleton.1 hbody
  cases (Placeholder.parse_of_isPathChar (fun _ => isPathChar_userId) (List.cons_ne_nil _ _)).symm.trans hplaceholder
  cases (Path.parse_written isPlain_user isPlain_id).symm.trans hbegins
  exact absurd (List.cons.inj hkeys).1 (by decide)

/-- A test and a placeholder that go into a document of the object: the statement is made for the object, and it is
the one that is made for the map. -/
theorem indistinguishable_object_activeUser :
    (∃ b, findActive.boundAnew activeId .defaults .empty (.json (.object activeUser)) none = .ok b ∧
        b.parameters.length = 1) ∧
      Indistinguishable (findActive.boundAnew activeId .defaults .empty · none) (.json (.object activeUser))
        (Value.ofJson (.object activeUser)) ∧
      Indistinguishable (findActive.bound activeId .defaults .empty · none) (.json (.object activeUser))
        (Value.ofJson (.object activeUser)) := by
  obtain ⟨o, hrender, hsql⟩ : ∃ o, activeId.renderFor (.json (.object activeUser)) none = .ok o ∧
      o.sql = "#\x7buser.id\x7d" := ⟨_, rfl, rfl⟩
  have htext : o.sql = String.ofList ('#' :: '\x7b' :: (Path.written ⟨"user", none⟩ [⟨"id", none⟩] ++ ['\x7d'])) :=
    hsql.trans rfl
  have havoids : activeId.Avoids (· = Frame.argumentKey) :=
    .conditional (List.forall_mem_singleton.2 (by decide)) (.text _)
  refine ⟨?_, indistinguishable_object rfl havoids (fun o' ho' => ?_) .empty⟩
  · rw [boundAnew_of_render hrender, htext,
      Resolver.resolve_placeholder _ (fun _ => isPathChar_userId) (List.cons_ne_nil _ _)]
    exact ⟨_, rfl, rfl⟩
  · cases hrender.symm.trans ho'
    exact activeId_mentions hsql

end MappedStatement

end DynamicSql
