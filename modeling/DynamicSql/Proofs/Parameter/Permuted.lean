import DynamicSql.Proofs.Entries
import DynamicSql.Proofs.Parameter.Canonical

/-!
# The order of attributes

The attributes of a placeholder may be written in any order, if no two have the same name: the parameter is the
same, or is refused in every order (`Resolver.parameter_perm`). Each attribute sets one thing of its own, and
whether it is accepted does not depend on the others (`Resolver.toOption_applyAttribute`), so that two attributes
of different names may change places. The SQL type, which the inferred type depends on, and the handler are looked
up by their names among all attributes.
-/

namespace DynamicSql

open Step

/-! ### Settings -/

/-- What an attribute sets of a parameter. -/
inductive Setting where
  | type (t : DataType)
  | sqlType (t : Option SqlType)
  | sqlTypeName (name : String)
  | mode (m : Mode)
  | scale (n : Nat)
  | resultMap (id : String)
  /-- Nothing; the handler is looked up in the end. -/
  | nothing

namespace Setting

/-- The attribute that it is set by. -/
def name? : Setting → Option String
  | type _ => some "javaType"
  | sqlType _ => some "jdbcType"
  | sqlTypeName _ => some "jdbcTypeName"
  | mode _ => some "mode"
  | scale _ => some "numericScale"
  | resultMap _ => some "resultMap"
  | nothing => none

def apply (p : Parameter) : Setting → Parameter
  | type t => { p with type := t }
  | sqlType t => { p with sqlType := t }
  | sqlTypeName name => { p with sqlTypeName := some name }
  | mode m => { p with mode := m }
  | scale n => { p with scale := some n }
  | resultMap id => { p with resultMap := some id }
  | nothing => p

theorem apply_comm {s t : Setting} (h : ∀ n ∈ s.name?, n ∉ t.name?) (p : Parameter) :
    apply (apply p s) t = apply (apply p t) s := by
  cases s <;> cases t <;> first | rfl | exact absurd rfl (h _ rfl)

end Setting

namespace Resolver

variable {r : Resolver} {sqlType : Option SqlType} {name value : String}

/-- What an attribute sets, if it is accepted. -/
def setting? (r : Resolver) (sqlType : Option SqlType) (name value : String) : Option Setting :=
  match name with
  | "javaType" => (r.aliases.resolve value).toOption.map .type
  | "jdbcType" => some (.sqlType sqlType)
  | "mode" => (Mode.ofName value).toOption.map .mode
  | "numericScale" => ((Number.readNat? value.toList).filter (· < Number.pow2 32)).map .scale
  | "resultMap" => some (.resultMap value)
  | "typeHandler" | "property" => some .nothing
  | "jdbcTypeName" => some (.sqlTypeName value)
  | _ => none

theorem name_of_setting? {s : Setting} (h : r.setting? sqlType name value = some s) : ∀ n ∈ s.name?, n = name := by
  unfold setting? at h
  split at h
  · obtain ⟨t, -, rfl⟩ := Option.map_eq_some_iff.1 h
    exact fun n hn => (Option.some.inj hn).symm
  · obtain rfl := Option.some.inj h
    exact fun n hn => (Option.some.inj hn).symm
  · obtain ⟨m, -, rfl⟩ := Option.map_eq_some_iff.1 h
    exact fun n hn => (Option.some.inj hn).symm
  · obtain ⟨n, -, rfl⟩ := Option.map_eq_some_iff.1 h
    exact fun n hn => (Option.some.inj hn).symm
  · obtain rfl := Option.some.inj h
    exact fun n hn => (Option.some.inj hn).symm
  · obtain rfl := Option.some.inj h
    exact fun n hn => absurd hn (Option.not_mem_none n)
  · obtain rfl := Option.some.inj h
    exact fun n hn => absurd hn (Option.not_mem_none n)
  · obtain rfl := Option.some.inj h
    exact fun n hn => (Option.some.inj hn).symm
  · cases h

/-- An attribute is accepted or refused whatever is set already, and sets one thing. -/
theorem toOption_applyAttribute (r : Resolver) (body : String) (sqlType : Option SqlType) (p : Parameter)
    (name value : String) :
    (r.applyAttribute body sqlType p name value).toOption = (r.setting? sqlType name value).map (Setting.apply p) := by
  unfold applyAttribute setting?
  split
  · cases r.aliases.resolve value <;> rfl
  · rfl
  · cases Mode.ofName value <;> rfl
  · cases (Number.readNat? value.toList).filter (· < Number.pow2 32) <;> rfl
  · rfl
  · rfl
  · rfl
  · rfl
  · rfl
  · split <;> first | contradiction | rfl

theorem toOption_applyAttributes (r : Resolver) (body : String) (sqlType : Option SqlType) (p : Parameter)
    (attributes : List (String × String)) :
    (r.applyAttributes body sqlType p attributes).toOption =
      attributes.foldlM (fun p a => (r.setting? sqlType a.1 a.2).map (Setting.apply p)) p := by
  induction attributes generalizing p with
  | nil => rfl
  | cons a attributes ih =>
    rw [applyAttributes_cons, toOption_bind, toOption_applyAttribute, List.foldlM_cons]
    exact congrArg _ (funext ih)

theorem applyAttributes_perm {attributes attributes' : List (String × String)}
    (hperm : attributes'.Perm attributes) (hdistinct : (attributes.map Prod.fst).Nodup) (r : Resolver)
    (body body' : String) (sqlType : Option SqlType) (p : Parameter) :
    (r.applyAttributes body' sqlType p attributes').toOption =
      (r.applyAttributes body sqlType p attributes).toOption := by
  rw [toOption_applyAttributes, toOption_applyAttributes, List.foldlM_eq_foldl, List.foldlM_eq_foldl]
  refine hperm.foldl_eq' (fun a ha b hb q => ?_) _
  by_cases hname : a.1 = b.1
  · rw [List.inj_on_of_nodup_map hdistinct (hperm.subset ha) (hperm.subset hb) hname]
  · cases q with
    | none => rfl
    | some q =>
      cases hs : r.setting? sqlType a.1 a.2 with
      | none => cases r.setting? sqlType b.1 b.2 <;> rfl
      | some s =>
        cases ht : r.setting? sqlType b.1 b.2 with
        | none => rfl
        | some t =>
          have hfield : ∀ n ∈ s.name?, n ∉ t.name? := fun n hn hn' =>
            hname ((name_of_setting? hs n hn).symm.trans (name_of_setting? ht n hn'))
          exact congrArg some (Setting.apply_comm hfield q)

theorem requestedHandler_perm {attributes attributes' : List (String × String)}
    (hperm : attributes'.Perm attributes) (hdistinct : (attributes.map Prod.fst).Nodup) (r : Resolver) :
    r.requestedHandler attributes' = r.requestedHandler attributes := by
  rw [requestedHandler, requestedHandler, filter_eq_of_perm hperm hdistinct]

theorem declaredSqlType_perm {e e' : Placeholder} (hperm : e'.attributes.Perm e.attributes)
    (hdistinct : (e.attributes.map Prod.fst).Nodup) : declaredSqlType e' = declaredSqlType e := by
  rw [declaredSqlType, declaredSqlType, Placeholder.attribute?, Placeholder.attribute?,
    lookup_eq_of_perm hperm hdistinct]

/-- Attributes of different names may be written in any order: each order is that of some text, and of all texts
with the same property and these attributes the same parameter comes, or none. -/
theorem parameter_perm (r : Resolver) {body : String} {e : Placeholder} (h : Placeholder.parse body = .ok e)
    (hdistinct : (e.attributes.map Prod.fst).Nodup) {attributes : List (String × String)}
    (hperm : attributes.Perm e.attributes) :
    (∃ body', Placeholder.parse body' = .ok ⟨e.property, attributes⟩) ∧
    ∀ body', Placeholder.parse body' = .ok ⟨e.property, attributes⟩ →
      (r.parameter body').toOption = (r.parameter body).toOption := by
  constructor
  · have he := Placeholder.isRead_of_read (Placeholder.parse_eq_ok.1 h)
    have hread : Placeholder.IsRead ⟨e.property, attributes⟩ :=
      ⟨he.property, he.ne_nil, he.property_ne, fun a ha => he.attributes a (hperm.subset ha)⟩
    exact hread.exists_parse
  · intro body' h'
    have hsqlType : declaredSqlType ⟨e.property, attributes⟩ = declaredSqlType e :=
      declaredSqlType_perm hperm hdistinct
    rw [parameter, parameter, h, h']
    show (declaredSqlType _ >>= _).toOption = (declaredSqlType _ >>= _).toOption
    rw [hsqlType, toOption_bind, toOption_bind]
    refine congrArg _ (funext fun sqlType => ?_)
    rw [toOption_bind, toOption_bind, applyAttributes_perm hperm hdistinct r body,
      requestedHandler_perm hperm hdistinct]

theorem parameter_perm_total :
    Placeholder.parse "total:NUMERIC, javaType=decimal, mode=OUT, typeHandler=decimalHandler" =
      .ok ⟨"total", [("jdbcType", "NUMERIC"), ("javaType", "decimal"), ("mode", "OUT"),
        ("typeHandler", "decimalHandler")]⟩ ∧
    Placeholder.parse "total, typeHandler=decimalHandler, mode=OUT, jdbcType=NUMERIC, javaType=decimal" =
      .ok ⟨"total", [("typeHandler", "decimalHandler"), ("mode", "OUT"), ("jdbcType", "NUMERIC"),
        ("javaType", "decimal")]⟩ ∧
    (Resolver.parameter ⟨.defaults, .empty, .map, []⟩
        "total, typeHandler=decimalHandler, mode=OUT, jdbcType=NUMERIC, javaType=decimal").toOption =
      some ⟨"total", .decimal, some .numeric, none, .output, none, none, some (.coercing .decimal)⟩ := by
  have hperm : List.Perm [("typeHandler", "decimalHandler"), ("mode", "OUT"), ("jdbcType", "NUMERIC"),
      ("javaType", "decimal")] [("jdbcType", "NUMERIC"), ("javaType", "decimal"), ("mode", "OUT"),
      ("typeHandler", "decimalHandler")] := by decide
  have hwritten : (Resolver.parameter ⟨.defaults, .empty, .map, []⟩
      "total:NUMERIC, javaType=decimal, mode=OUT, typeHandler=decimalHandler").toOption =
      some ⟨"total", .decimal, some .numeric, none, .output, none, none, some (.coercing .decimal)⟩ := rfl
  exact ⟨rfl, rfl, ((parameter_perm _ rfl (by decide) hperm).2 _ rfl).trans hwritten⟩

end Resolver

end DynamicSql
