import DynamicSql.Proofs.Parameter.Bare
import DynamicSql.Proofs.Parameter.Bind
import DynamicSql.Proofs.Parameter.Defaults
import DynamicSql.Proofs.Path.Indexed
import DynamicSql.Proofs.Path.Typed
import DynamicSql.Proofs.Template.Scope

/-!
# Inferred types and looked up values

A type is inferred for a parameter before its value is looked up, and the two choose between the variables
and the argument on their own. They choose alike, and the value is of the type, unless the path of the
parameter begins with an index that names a variable: then the type comes from the variable, and the value
from the argument (`Resolver.dataType_eq_of_resolve`).
-/

namespace DynamicSql

open Step BoundStatement

/-! ### Parameters and their placeholders -/

namespace Resolver

theorem parameters_of_mapM_part {r : Resolver} {pieces : List Piece} {parts : List Part}
    (h : List.Forall₂ (fun piece part => r.part piece = .ok part) pieces parts) :
    List.Forall₂ (fun body p => r.parameter (String.ofList body) = .ok p)
      (pieces.filterMap Piece.body?) (parametersOf parts) := by
  induction h with
  | nil => exact .nil
  | @cons piece part _ _ hpart _ ih =>
    cases piece with
    | plain text =>
      obtain rfl := Except.ok.inj hpart
      exact ih
    | token body =>
      obtain ⟨p, hp, rfl⟩ := except_map_eq_ok.1 hpart
      exact .cons hp ih

theorem forall₂_placeholdersIn {r : Resolver} {sql : String} {b : BoundStatement}
    (h : r.resolve sql = .ok b) :
    List.Forall₂ (fun body p => r.parameter (String.ofList body) = .ok p) (placeholdersIn sql)
      b.parameters := by
  obtain ⟨parts, hparts, rfl⟩ := resolve_eq_ok.1 h
  exact parameters_of_mapM_part (mapM_eq_ok.1 hparts)

theorem type_of_applyAttribute {r : Resolver} {body : String} {sqlType : Option SqlType}
    {p q : Parameter} {name value : String} (h : r.applyAttribute body sqlType p name value = .ok q)
    (hname : name ≠ "javaType") : q.type = p.type := by
  unfold applyAttribute at h
  split at h
  · exact absurd rfl hname
  · cases h
    rfl
  · obtain ⟨mode, -, h⟩ := except_bind_eq_ok.1 h
    cases h
    rfl
  · split at h
    · cases h
      rfl
    · cases h
  all_goals first | (cases h; done) | (cases h; rfl)

theorem type_of_applyAttributes {r : Resolver} {body : String} {sqlType : Option SqlType}
    {p q : Parameter} {attributes : List (String × String)}
    (h : r.applyAttributes body sqlType p attributes = .ok q)
    (hnames : ∀ a ∈ attributes, a.1 ≠ "javaType") : q.type = p.type := by
  induction attributes generalizing p with
  | nil =>
    cases h
    rfl
  | cons a attributes ih =>
    rw [applyAttributes_cons] at h
    obtain ⟨p', hp, h⟩ := except_bind_eq_ok.1 h
    rw [ih h fun b hb => hnames b (.tail _ hb), type_of_applyAttribute hp (hnames a (.head _))]

theorem type_of_parameter {r : Resolver} {body : String} {p : Parameter} {placeholder : Placeholder}
    (h : r.parameter body = .ok p) (hparse : Placeholder.parse body = .ok placeholder)
    (hjava : placeholder.attribute? "javaType" = none) :
    ∃ sqlType, p.type = r.inferType p.property sqlType := by
  obtain ⟨placeholder', sqlType, q, handler, hparse', -, hq, -, rfl⟩ := parameter_eq_ok.1 h
  obtain rfl := Except.ok.inj (hparse.symm.trans hparse')
  have hnames : ∀ a ∈ placeholder.attributes, a.1 ≠ "javaType" := by
    intro a ha heq
    have hne := List.lookup_eq_none_iff.1 hjava a ha
    rw [heq] at hne
    cases hne
  refine ⟨sqlType, ?_⟩
  show q.type = r.inferType q.property sqlType
  rw [type_of_applyAttributes hq hnames, property_of_applyAttributes hq]
  rfl

end Resolver

/-! ### Where they choose alike -/

/-- The path begins with an index that names a variable, and does not begin with a name. -/
def Path.Misread (path : Path) (bindings : Table String Value) : Prop :=
  path.root = "" ∧ bindings.find? "" = none ∧ ∃ key ∈ path.keys.head?, bindings.find? key ≠ none

theorem typeAt?_of_not_misread {bindings : Table String Value} {path : Path} {text : String}
    (hparse : Path.parse text = .ok path) (hroot : bindings.find? path.root = none)
    (hread : ¬ path.Misread bindings) : (Value.map bindings).typeAt? path = none := by
  obtain ⟨key, rest, hkeys⟩ := Path.exists_keys_of_parse hparse
  refine Value.typeAt?_of_absent hkeys ?_
  rcases Path.root_eq_key hkeys with hempty | hkey
  · by_contra hbound
    refine hread ⟨hempty, by rwa [hempty] at hroot, key, ?_, hbound⟩
    rw [hkeys]
    rfl
  · rwa [← hkey]

theorem Binder.valueOf_of_misread {registry : Registry} {b : BoundStatement} {argument : Value} {p : Parameter}
    {path : Path} (hpath : Path.parse p.property = .ok path) (hread : path.Misread b.bindings) :
    valueOf registry b argument p = valueOf registry (b.withBindings []) argument p := by
  have hbound : b.hasBinding path.root = false := by
    rw [BoundStatement.hasBinding, hread.1, Table.contains, hread.2.1]
    rfl
  have hnone : (b.withBindings []).hasBinding path.root = false := rfl
  rw [valueOf_of_parse hpath, valueOf_of_parse hpath, hbound, hnone, if_neg Bool.false_ne_true,
    if_neg Bool.false_ne_true]

namespace Resolver

variable {r : Resolver} {argument : Value}

theorem inferType_of_typeAt? {property : String} {path : Path} {t : DataType} (hpath : Path.parse property = .ok path)
    (htype : (Value.map r.bindings).typeAt? path = some t) (sqlType : Option SqlType) :
    r.inferType property sqlType = t := by
  rw [inferType, hpath]
  dsimp only
  rw [htype]

/-- Without a variable, the inferred type is that of an argument that is the value itself, or the type that
the path leads to within the type of the argument, or one that says nothing. -/
theorem inferType_of_unbound {property : String} {path : Path} (hpath : Path.parse property = .ok path)
    (hunbound : (Value.map r.bindings).typeAt? path = none) (sqlType : Option SqlType) :
    r.inferType property sqlType = .any ∨ r.inferType property sqlType = .cursor ∨
      (r.registry.isDirect r.argumentType = true ∧ r.inferType property sqlType = r.argumentType) ∨
      (r.registry.isDirect r.argumentType = false ∧
        r.argumentType.property? path = some (r.inferType property sqlType)) := by
  rw [inferType, hpath]
  dsimp only
  rw [hunbound]
  dsimp only
  split
  · next hdirect => exact .inr (.inr (.inl ⟨hdirect, rfl⟩))
  · next hdirect =>
    split
    · exact .inr (.inl rfl)
    · split
      · exact .inl rfl
      · exact .inl rfl
      · cases hproperty : r.argumentType.property? path with
        | none => exact .inl rfl
        | some t => exact .inr (.inr (.inr ⟨Bool.of_not_eq_true hdirect, rfl⟩))

theorem dataType_eq_of_valueOf (hargument : argument.Conforms) (htype : r.argumentType = argument.dataType)
    {b : BoundStatement} (hbindings : b.bindings = r.bindings) {p : Parameter} {sqlType : Option SqlType}
    (hp : p.type = r.inferType p.property sqlType) (hany : p.type ≠ .any) (hcursor : p.type ≠ .cursor)
    {path : Path} (hpath : Path.parse p.property = .ok path) (hread : ¬ path.Misread r.bindings)
    {v : Value} (hvalue : Binder.valueOf r.registry b argument p = .ok v) (hv : v.isNull = false) :
    v.dataType = p.type := by
  rw [hp] at hany hcursor ⊢
  obtain ⟨path', hpath', hvalue⟩ := Binder.valueOf_eq_ok.1 hvalue
  obtain rfl := Except.ok.inj (hpath.symm.trans hpath')
  rw [BoundStatement.hasBinding, Table.contains, hbindings] at hvalue
  cases hroot : r.bindings.find? path.root with
  | some u =>
    rw [hroot, Option.isSome_some, if_pos rfl] at hvalue
    rw [inferType_of_typeAt? hpath (Value.dataType_eq_of_typeAt? hvalue hv)]
  | none =>
    rw [hroot, Option.isSome_none, if_neg Bool.false_ne_true] at hvalue
    have hnull : argument.isNull = false := by
      by_contra hnull
      rw [if_pos (Bool.of_not_eq_false hnull)] at hvalue
      obtain rfl := Except.ok.inj hvalue
      cases hv
    rw [hnull, if_neg Bool.false_ne_true, ← htype] at hvalue
    have hunbound := typeAt?_of_not_misread hpath hroot hread
    rcases inferType_of_unbound hpath hunbound sqlType with h | h | ⟨hdirect, h⟩ | ⟨hdirect, h⟩
    · exact absurd h hany
    · exact absurd h hcursor
    · rw [hdirect, if_pos rfl] at hvalue
      obtain rfl := Except.ok.inj hvalue
      rw [h, htype]
    · rw [hdirect, if_neg Bool.false_ne_true] at hvalue
      rw [htype] at h
      rcases Value.hasType_of_property? hargument h hvalue with h | h | ⟨h, -⟩
      · exact absurd h hany
      · rw [hv] at h
        cases h
      · exact h

theorem ne_of_forall_isPathChar {body : List Char} (hchars : ∀ c ∈ body, isPathChar c = true) :
    ∀ c ∈ body, c ≠ '\x7d' ∧ c ≠ '\\' := fun c hc =>
  ⟨ne_of_isPathChar (hchars c hc) (by decide) (by decide) (by decide) (by decide),
    ne_of_isPathChar (hchars c hc) (by decide) (by decide) (by decide) (by decide)⟩

theorem pieces_of_placeholder {body : List Char} (hchars : ∀ c ∈ body, isPathChar c = true) :
    Delimiters.placeholder.pieces false ('#' :: '\x7b' :: (body ++ ['\x7d'])) = [.token body] := by
  have hpieces := Delimiters.pieces_token (ne_of_forall_isPathChar hchars) false []
  rwa [Delimiters.pieces_nil] at hpieces

theorem placeholdersIn_placeholder {body : List Char} (hchars : ∀ c ∈ body, isPathChar c = true) :
    placeholdersIn (String.ofList ('#' :: '\x7b' :: (body ++ ['\x7d']))) = [body] :=
  placeholdersIn_token (ne_of_forall_isPathChar hchars) String.toList_ofList

theorem resolve_placeholder (r : Resolver) {body : List Char} (hchars : ∀ c ∈ body, isPathChar c = true)
    (hne : body ≠ []) :
    r.resolve (String.ofList ('#' :: '\x7b' :: (body ++ ['\x7d']))) =
      .ok (ofParts [.parameter (.ofType (String.ofList body) (r.inferType (String.ofList body) none))]) := by
  have hpieces := pieces_of_placeholder hchars
  have hparameter := r.parameter_of_no_attributes (Placeholder.parse_of_isPathChar hchars hne)
  refine resolve_eq_ok.2 ⟨_, ?_, rfl⟩
  rw [String.toList_ofList, hpieces]
  refine mapM_eq_ok.2 (.cons ?_ .nil)
  rw [part, hparameter]
  rfl

/-- Inference and lookup choose the same source, but for paths that begin with an index which names a variable. For
each placeholder that names no type, if a type is inferred for its parameter, and its path is none of these, then what
is looked up for the parameter is null or of this type. For one of these paths the type is that of what the variables
have there, and the value is looked up as if there were no variables. -/
theorem dataType_eq_of_resolve (hargument : argument.Conforms) (hjson : argument.dataType ≠ .json)
    (htype : r.argumentType = argument.dataType) {sql : String} {b : BoundStatement}
    (hresolve : r.resolve sql = .ok b) :
    List.Forall₂ (fun body p => ∀ placeholder path,
      Placeholder.parse (String.ofList body) = .ok placeholder →
      placeholder.attribute? "javaType" = none → Path.parse p.property = .ok path →
      (∀ v, p.type ≠ .any → p.type ≠ .cursor → ¬ path.Misread r.bindings →
        Binder.valueOf r.registry (b.withBindings r.bindings) (Binder.navigable argument) p = .ok v →
        v.isNull = false → v.dataType = p.type) ∧
      (path.Misread r.bindings →
        (∀ t, (Value.map r.bindings).typeAt? path = some t → p.type = t) ∧
        Binder.valueOf r.registry (b.withBindings r.bindings) (Binder.navigable argument) p =
          Binder.valueOf r.registry (b.withBindings []) (Binder.navigable argument) p))
      (placeholdersIn sql) b.parameters := by
  have hnavigable : Binder.navigable argument = argument := by
    cases argument with
    | json j => exact absurd rfl hjson
    | _ => rfl
  apply (forall₂_placeholdersIn hresolve).imp
  intro body p hp placeholder path hparse hjava hpath
  obtain ⟨sqlType, hp⟩ := type_of_parameter hp hparse hjava
  rw [hnavigable]
  refine ⟨fun v hany hcursor hread hvalue hv => ?_, fun hread => ⟨fun t ht => ?_, ?_⟩⟩
  · exact dataType_eq_of_valueOf hargument htype rfl hp hany hcursor hpath hread hvalue hv
  · rw [hp, inferType_of_typeAt? hpath ht]
  · exact Binder.valueOf_of_misread (b := b.withBindings r.bindings) hpath hread

theorem dataType_eq_of_resolve_id :
    ∃ b p, Resolver.resolve ⟨.defaults, .empty, .record "User" [("id", .int)], []⟩ "#\x7bid\x7d" = .ok b ∧
      b.parameters = [p] ∧
      Binder.valueOf .defaults (b.withBindings []) (.record ⟨"User", [("id", .int)]⟩ [.int 7]) p =
        .ok (.int 7) ∧ (Value.int 7).dataType = p.type := by
  have hid : Segment.IsPlain ⟨"id", none⟩ :=
    ⟨⟨by decide, List.all_eq_true.1 (by decide)⟩, fun _ h => absurd h (Option.not_mem_none _)⟩
  have hnil : ∀ t ∈ ([] : List Segment), t.IsPlain := List.forall_mem_nil _
  have hne : Path.written ⟨"id", none⟩ [] ≠ [] := List.cons_ne_nil 'i' ['d']
  have hchars : ∀ c ∈ Path.written ⟨"id", none⟩ [], isPathChar c = true := fun c hc =>
    Path.isPathChar_of_mem_written hid hnil hc
  have hpath := Path.parse_written hid hnil
  have hplaceholder := Placeholder.parse_of_isPathChar hchars hne
  have hresolve := resolve_placeholder ⟨.defaults, .empty, .record "User" [("id", .int)], []⟩ hchars hne
  have htype : inferType ⟨.defaults, .empty, .record "User" [("id", .int)], []⟩
      (String.ofList (Path.written ⟨"id", none⟩ [])) none = .int := by
    rw [inferType, hpath]
    rfl
  rw [htype] at hresolve
  have hconforms : (Value.record ⟨"User", [("id", .int)]⟩ [.int 7]).Conforms :=
    .record (List.forall_mem_singleton.2 (.inr (.inr rfl))) (List.forall_mem_singleton.2 (.other rfl))
  have hall := dataType_eq_of_resolve hconforms (by decide) rfl hresolve
  rw [placeholdersIn_placeholder hchars] at hall
  refine ⟨_, _, hresolve, rfl, Binder.valueOf_eq_ok.2 ⟨_, hpath, rfl⟩, ?_⟩
  obtain ⟨hagrees, -⟩ := (List.forall₂_cons.1 hall).1 _ _ hplaceholder rfl hpath
  exact hagrees (.int 7) (by decide) (by decide) (fun h => absurd h.1 (by decide))
    (Binder.valueOf_eq_ok.2 ⟨_, hpath, rfl⟩) rfl

end Resolver

/-- The index `[a]` has the type of the variable `a`, and is bound to the string of the argument. -/
theorem Resolver.dataType_ne_of_index :
    ∃ b p, Resolver.resolve ⟨.defaults, .empty, .map, [("a", .int 5)]⟩ "#\x7b[a]\x7d" = .ok b ∧
      b.parameters = [p] ∧ p.type = .int ∧
      Binder.valueOf .defaults (b.withBindings [("a", .int 5)]) (.map [("a", .string "x")]) p =
        .ok (.string "x") ∧ (Value.string "x").dataType ≠ p.type := by
  have hchars : ∀ c ∈ Path.bracketed [] ['a'], isPathChar c = true := List.all_eq_true.1 (by decide)
  have hinner : ∀ c ∈ ['a'], isNameChar c = true := List.all_eq_true.1 (by decide)
  have hpath := Path.parse_bracketed hinner nofun
  have hresolve := resolve_placeholder ⟨.defaults, .empty, .map, [("a", .int 5)]⟩ hchars nofun
  have htype : Resolver.inferType ⟨.defaults, .empty, .map, [("a", .int 5)]⟩
      (String.ofList (Path.bracketed [] ['a'])) none = .int := by
    rw [inferType, hpath]
    rfl
  refine ⟨_, _, hresolve, rfl, htype, Binder.valueOf_eq_ok.2 ⟨_, hpath, rfl⟩, fun h => ?_⟩
  exact absurd (h.trans htype) (by decide)

end DynamicSql
