import DynamicSql.Proofs.Path.Lens

/-!
# Declared types

The type of a record tells of its fields, and of the fields of records in them, before there is a record. What is
read from an instance of the type at a path has the type that the path leads to, and reading cannot fail along
names of declared fields (`Record.staticType_sound`). Of several fields of one name, types and values both go
by the first.
-/

namespace DynamicSql

/-! ### Fields of a record type -/

namespace Schema

/-- The first field of this name has the type. -/
def Declares (s : Schema) (name : String) (t : DataType) : Prop :=
  ∃ before after, s.fields = before ++ (name, t) :: after ∧ ∀ field ∈ before, field.1 ≠ name

variable {s : Schema} {name : String} {t : DataType}

theorem fieldType?_eq_some_iff : s.fieldType? name = some t ↔ s.Declares name t := by
  rw [fieldType?, Option.map_eq_some_iff]
  constructor
  · rintro ⟨⟨name', t'⟩, hfind, rfl⟩
    obtain ⟨hname, before, after, hfields, hbefore⟩ := List.find?_eq_some_iff_append.1 hfind
    obtain rfl : name' = name := of_decide_eq_true hname
    exact ⟨before, after, hfields, fun field hfield => by simpa using hbefore field hfield⟩
  · rintro ⟨before, after, hfields, hbefore⟩
    refine ⟨(name, t), List.find?_eq_some_iff_append.2 ⟨decide_eq_true rfl, before, after, hfields, ?_⟩, rfl⟩
    exact fun field hfield => by simpa using hbefore field hfield

theorem Declares.indexOf? (h : s.Declares name t) :
    ∃ i, s.indexOf? name = some i ∧ s.fields[i]? = some (name, t) := by
  obtain ⟨before, after, hfields, hbefore⟩ := h
  refine ⟨before.length, ?_, ?_⟩
  · rw [Schema.indexOf?, hfields, List.findIdx?_append,
      List.findIdx?_eq_none_iff.2 fun field hfield => decide_eq_false (hbefore field hfield), List.findIdx?_cons,
      if_pos (decide_eq_true rfl)]
    simp
  · rw [hfields, List.getElem?_append_right (Nat.le_refl _), Nat.sub_self, List.getElem?_cons_zero]

end Schema

/-! ### Instances -/

/-- A record that is an instance of its schema has one value for each field, and this is null or of the declared
type, or anything where the declared type is open. The records among its values are instances of theirs. -/
inductive Record.IsInstance : Record → Prop
  | intro {r : Record} (hlength : r.values.length = r.schema.fields.length)
      (hfields : ∀ p ∈ r.schema.fields.zip r.values, p.1.2 = .any ∨ p.2.isNull = true ∨ p.2.dataType = p.1.2)
      (hrecords : ∀ schema values, Value.record schema values ∈ r.values → IsInstance ⟨schema, values⟩) :
      IsInstance r

/-- A value fits a type that is said of it: the type is open, or the value is null or an instance of the type. -/
def Value.Fits (v : Value) (t : DataType) : Prop :=
  t = .any ∨ v.isNull = true ∨
    (v.dataType = t ∧ ∀ schema values, v = .record schema values → Record.IsInstance ⟨schema, values⟩)

namespace Record

variable {r : Record}

theorem IsInstance.conforms (h : r.IsInstance) : r.toValue.Conforms := by
  induction h with
  | intro _ hfields _ ih =>
    refine .record hfields fun v hv => ?_
    cases v with
    | record schema values => exact ih schema values hv
    | _ => exact .other rfl

theorem IsInstance.fits (h : r.IsInstance) : r.toValue.Fits r.schema.type := by
  refine .inr (.inr ⟨rfl, fun schema values heq => ?_⟩)
  obtain ⟨rfl, rfl⟩ := Value.record.inj heq
  exact h

theorem IsInstance.property (h : r.IsInstance) {name : String} {t : DataType} (ht : r.schema.Declares name t) :
    ∃ w, r.toValue.property name = .ok w ∧ w.Fits t := by
  obtain ⟨hlength, hfields, hrecords⟩ := h
  obtain ⟨i, hindex, hfield⟩ := ht.indexOf?
  have hlt : i < r.values.length := hlength ▸ (List.getElem?_eq_some_iff.1 hfield).1
  have hvalue : r.values[i]? = some r.values[i] := List.getElem?_eq_getElem hlt
  refine ⟨r.values[i], ?_, ?_⟩
  · rw [toValue, Value.property_record, hindex, Option.bind_some, hvalue]
  · have hmem : ((name, t), r.values[i]) ∈ r.schema.fields.zip r.values :=
      List.mem_iff_getElem?.2 ⟨i, List.getElem?_zip_eq_some.2 ⟨hfield, hvalue⟩⟩
    refine (hfields _ hmem).imp_right (Or.imp_right fun htype => ⟨htype, fun schema values heq => ?_⟩)
    exact hrecords schema values (heq ▸ List.getElem_mem hlt)

end Record

/-! ### Paths of names -/

namespace DataType

/-- Each key names a field of the record type that the keys before it lead to, and the last one leads to the
type. -/
inductive Leads : DataType → List String → DataType → Prop
  | nil (t : DataType) : Leads t [] t
  | cons {schema : Schema} {name : String} {rest : List String} {t u : DataType}
      (h : schema.Declares name t) (hrest : Leads t rest u) : Leads schema.type (name :: rest) u

variable {t u : DataType}

theorem leads_nil_iff : t.Leads [] u ↔ t = u := by
  constructor
  · rintro ⟨⟩
    rfl
  · rintro rfl
    exact .nil t

theorem leads_cons_iff {name : String} {rest : List String} :
    t.Leads (name :: rest) u ↔ ∃ t', t.schema?.bind (·.fieldType? name) = some t' ∧ t'.Leads rest u := by
  constructor
  · rintro (⟨⟩ | ⟨h, hrest⟩)
    exact ⟨_, Schema.fieldType?_eq_some_iff.2 h, hrest⟩
  · rintro ⟨t', ht', hrest⟩
    cases t with
    | record typeName fields =>
      have hdeclares : Schema.Declares ⟨typeName, fields⟩ name t' := Schema.fieldType?_eq_some_iff.1 ht'
      exact .cons hdeclares hrest
    | _ => cases ht'

theorem foldlM_step?_eq_some_iff {segments : List Segment} (h : ∀ s ∈ segments, s.index = none) :
    segments.foldlM step? t = some u ↔ t.Leads (segments.flatMap Segment.keys) u := by
  induction segments generalizing t with
  | nil =>
    rw [List.flatMap_nil, leads_nil_iff]
    exact Option.some_inj
  | cons s segments ih =>
    obtain ⟨name, index⟩ := s
    obtain ⟨rfl, hrest⟩ := List.forall_mem_cons.1 h
    rw [List.foldlM_cons, List.flatMap_cons, Segment.keys, Option.toList_none, List.append_nil, Value.step?_name]
    by_cases hname : name.isEmpty = true
    · rw [if_pos hname, if_pos hname]
      exact ih hrest
    · rw [if_neg hname, if_neg hname, List.singleton_append, leads_cons_iff, Option.bind_eq_bind,
        Option.bind_eq_some_iff]
      exact exists_congr fun t' => and_congr_right fun _ => ih hrest

/-- Nothing stops on its way along names of declared fields: it comes to a value or to null. -/
theorem Leads.exists_follow {keys : List String} (h : t.Leads keys u) {v : Value} (hv : v.Fits t) (raw : String) :
    ∃ w, Value.follow raw v keys = .ok w := by
  induction h generalizing v with
  | nil t => exact ⟨v, Value.follow_nil raw v⟩
  | @cons schema name rest t u hname _ ih =>
    rcases hv with hany | hnull | ⟨htype, hinstance⟩
    · cases hany
    · obtain rfl := Value.eq_null_of_isNull hnull
      exact ⟨.null, Value.follow_null raw _⟩
    · have hschema : v.dataType.schema? = some schema := by
        rw [htype]
        rfl
      obtain ⟨values, rfl⟩ := Value.eq_record_of_schema? hschema
      obtain ⟨w, hw, hfits⟩ := (hinstance schema values rfl).property hname
      rw [Record.toValue] at hw
      rw [Value.follow_cons_of_isNavigable rfl, hw]
      exact ih hfits

end DataType

/-! ### Records -/

/-- Static types are sound for the instances of a record type. What is read at a path has the type at the path,
if it is not null and the type is not open. Along names of declared fields, the type at the path is the declared
one, and reading does not fail. -/
theorem Record.staticType_sound {r : Record} (hr : r.IsInstance) (path : Path) :
    (∀ t v, r.schema.type.property? path = some t → t ≠ .any → r.toValue.readAt path = .ok v →
      v.isNull = false → v.dataType = t) ∧
    (∀ t, (∀ s ∈ path.segments, s.index = none) → r.schema.type.Leads path.keys t →
      r.schema.type.property? path = some t ∧ ∃ v, r.toValue.readAt path = .ok v) := by
  constructor
  · intro t v htype hany hv hnull
    rcases Value.hasType_of_property? hr.conforms htype hv with rfl | h | ⟨h, -⟩
    · exact absurd rfl hany
    · exact absurd h (ne_true_of_eq_false hnull)
    · exact h
  · intro t hnames hleads
    exact ⟨(DataType.foldlM_step?_eq_some_iff hnames).2 hleads, hleads.exists_follow hr.fits path.raw⟩

/-- A user with an address, whose type declares the name of the address twice. -/
def Record.addressee : Record :=
  ⟨⟨"User", [("id", .int), ("address", .record "Address" [("city", .string)]), ("address", .list)]⟩,
    [.null, .record ⟨"Address", [("city", .string)]⟩ [.string "Oslo"], .list []]⟩

theorem Record.isInstance_addressee : addressee.IsInstance := by
  have haddress : IsInstance ⟨⟨"Address", [("city", .string)]⟩, [.string "Oslo"]⟩ := by
    refine .intro rfl (List.forall_mem_singleton.2 (.inr (.inr rfl))) fun schema values h => ?_
    cases List.mem_singleton.1 h
  refine .intro rfl ?_ fun schema values h => ?_
  · exact List.forall_mem_cons.2 ⟨.inr (.inl rfl), List.forall_mem_cons.2 ⟨.inr (.inr rfl),
      List.forall_mem_singleton.2 (.inr (.inr rfl))⟩⟩
  · rcases List.mem_cons.1 h with h | h
    · cases h
    · rcases List.mem_pair.1 h with h | h
      · obtain ⟨rfl, rfl⟩ := Value.record.inj h
        exact haddress
      · cases h

/-- The path to the city. -/
def Record.addressPath : Path := ⟨"address.city", [⟨"address", none⟩, ⟨"city", none⟩]⟩

theorem Record.staticType_sound_city :
    addressee.IsInstance ∧ addressee.schema.type.Leads addressPath.keys .string ∧
      addressee.schema.type.property? addressPath = some .string ∧
      ∃ v, addressee.toValue.readAt addressPath = .ok v ∧ v.isNull = false ∧ v.dataType = .string := by
  have hcity : Schema.Declares ⟨"Address", [("city", .string)]⟩ "city" .string :=
    ⟨[], [], rfl, List.forall_mem_nil _⟩
  have haddress : addressee.schema.Declares "address" (Schema.type ⟨"Address", [("city", .string)]⟩) :=
    ⟨[("id", .int)], [("address", .list)], rfl, List.forall_mem_singleton.2 (by decide)⟩
  have hleads : addressee.schema.type.Leads addressPath.keys .string :=
    .cons haddress (.cons hcity (.nil .string))
  have hindex : ∀ s ∈ addressPath.segments, s.index = none :=
    List.forall_mem_cons.2 ⟨rfl, List.forall_mem_singleton.2 rfl⟩
  obtain ⟨hsound, hnames⟩ := staticType_sound isInstance_addressee addressPath
  obtain ⟨htype, v, hv⟩ := hnames .string hindex hleads
  have hnull : v.isNull = false := by
    obtain rfl : Value.string "Oslo" = v := Except.ok.inj hv
    rfl
  exact ⟨isInstance_addressee, hleads, htype, v, hv, hnull, hsound .string v htype (by decide) hv hnull⟩

end DynamicSql
