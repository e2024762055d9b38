import DynamicSql.Proofs.Parameter.Inference

/-!
# Types along paths

What the type of a value tells of a path is the type of what is found there, if the value conforms to its
type (`Value.hasType_of_property?`).
-/

namespace DynamicSql

namespace Value

/-- A record conforms to its schema if each field that is declared with a type holds null or a value of this
type, and all its values conform to theirs. Values of other kinds always conform. -/
inductive Conforms : Value → Prop
  | record {schema : Schema} {values : List Value}
      (hfields : ∀ p ∈ schema.fields.zip values,
        p.1.2 = .any ∨ p.2.isNull = true ∨ p.2.dataType = p.1.2)
      (hvalues : ∀ v ∈ values, Conforms v) : Conforms (.record schema values)
  | other {v : Value} (h : v.dataType.schema? = none) : Conforms v

/-- A value has a type that is said of it: the type is open, or the value is null or of this type. -/
def HasType (v : Value) (t : DataType) : Prop :=
  t = .any ∨ v.isNull = true ∨ (v.dataType = t ∧ v.Conforms)

theorem hasType_self {v : Value} (h : v.Conforms) : v.HasType v.dataType := .inr (.inr ⟨rfl, h⟩)

theorem eq_record_of_schema? {v : Value} {schema : Schema} (h : v.dataType.schema? = some schema) :
    ∃ values, v = .record schema values := by
  cases v with
  | record s values =>
    obtain rfl := Option.some.inj h
    exact ⟨values, rfl⟩
  | _ => cases h

theorem hasType_of_slot? {schema : Schema} {values : List Value} (h : (record schema values).Conforms)
    {key : String} {slot : Slot} (hslot : (record schema values).slot? key = some (.ok slot))
    {t : DataType} (ht : schema.fieldType? key = some t) : slot.content.HasType t := by
  cases h with
  | other h => cases h
  | record hfields hvalues =>
    rw [Schema.fieldType?, List.find?_eq_bind_findIdx?_getElem?] at ht
    cases hindex : schema.fields.findIdx? (·.1 = key) with
    | none =>
      rw [hindex] at ht
      cases ht
    | some i =>
      rw [hindex] at ht
      obtain ⟨field, hfield, rfl⟩ := Option.map_eq_some_iff.1 ht
      have hget : Record.get? ⟨schema, values⟩ key = values[i]? := by
        rw [Record.get?, Schema.indexOf?, hindex]
        rfl
      rw [slot?, hget, Schema.indexOf?, hindex] at hslot
      cases hvalue : values[i]? with
      | none =>
        rw [hvalue] at hslot
        cases hslot
      | some w =>
        rw [hvalue] at hslot
        cases hslot
        have hmem : (field, w) ∈ schema.fields.zip values :=
          List.mem_iff_getElem?.2 ⟨i, List.getElem?_zip_eq_some.2 ⟨hfield, hvalue⟩⟩
        have hw := hvalues w (List.mem_iff_getElem?.2 ⟨i, hvalue⟩)
        rcases hfields _ hmem with hany | hnull | htype
        · exact .inl hany
        · exact .inr (.inl hnull)
        · exact .inr (.inr ⟨htype, hw⟩)

theorem follow_append (raw : String) (v : Value) (keys rest : List String) :
    follow raw v (keys ++ rest) = follow raw v keys >>= fun w => follow raw w rest := by
  induction keys generalizing v with
  | nil => rw [follow_nil, List.nil_append]; rfl
  | cons key keys ih =>
    cases hnull : v.isNull with
    | true =>
      obtain rfl := Value.eq_null_of_isNull hnull
      rw [follow_null, follow_null]
      exact (follow_null raw rest).symm
    | false =>
      rw [List.cons_append, follow_cons hnull, follow_cons hnull]
      split
      · rfl
      · rfl
      · exact ih _

theorem step?_name {name : String} {t : DataType} :
    t.step? ⟨name, none⟩ = if name.isEmpty then some t else t.schema?.bind (·.fieldType? name) := by
  rw [DataType.step?]
  by_cases hname : name.isEmpty = true
  · rw [if_pos hname, if_pos hname]
    rfl
  · rw [if_neg hname, if_neg hname]
    cases t.schema? with
    | none => rfl
    | some schema =>
      show schema.fieldType? name >>= _ = schema.fieldType? name
      cases schema.fieldType? name <;> rfl

theorem step?_index {name index : String} {t : DataType} :
    t.step? ⟨name, some index⟩ = (t.step? ⟨name, none⟩).bind fun u =>
      if u ∈ [.list, .set, .map, .json, .any] then some .any else none := by
  rw [step?_name, DataType.step?]
  by_cases hname : name.isEmpty = true
  · rw [if_pos hname, if_pos hname]
    cases t <;> rfl
  · rw [if_neg hname, if_neg hname]
    cases t.schema? with
    | none => rfl
    | some schema =>
      show schema.fieldType? name >>= _ = (schema.fieldType? name).bind _
      cases schema.fieldType? name with
      | none => rfl
      | some u => cases u <;> rfl

theorem eq_any_of_step?_index {name index : String} {t u : DataType}
    (h : t.step? ⟨name, some index⟩ = some u) : u = .any := by
  rw [step?_index] at h
  obtain ⟨t', -, h⟩ := Option.bind_eq_some_iff.1 h
  split at h
  · exact (Option.some.inj h).symm
  · cases h

theorem hasType_of_step? {raw : String} {s : Segment} {t u : DataType} {v w : Value}
    (hv : v.HasType t) (hstep : t.step? s = some u) (hw : follow raw v s.keys = .ok w) :
    w.HasType u := by
  obtain ⟨name, index⟩ := s
  cases index with
  | some index => exact .inl (eq_any_of_step?_index hstep)
  | none =>
    rw [step?_name] at hstep
    rw [Segment.keys, Option.toList_none, List.append_nil] at hw
    by_cases hname : name.isEmpty = true
    · rw [if_pos hname] at hstep hw
      rw [follow_nil] at hw
      obtain rfl := Option.some.inj hstep
      obtain rfl := Except.ok.inj hw
      exact hv
    · rw [if_neg hname] at hstep hw
      obtain ⟨schema, hschema, hfield⟩ := Option.bind_eq_some_iff.1 hstep
      rcases hv with rfl | hnull | ⟨rfl, hconforms⟩
      · cases hschema
      · obtain rfl := Value.eq_null_of_isNull hnull
        obtain rfl := Except.ok.inj hw
        exact .inr (.inl rfl)
      · obtain ⟨values, rfl⟩ := eq_record_of_schema? hschema
        rw [follow_cons rfl] at hw
        split at hw
        · cases hw
        · cases hw
        · next slot hslot =>
          rw [follow_nil] at hw
          obtain rfl := Except.ok.inj hw
          exact hasType_of_slot? hconforms hslot hfield

theorem hasType_of_foldlM {raw : String} {segments : List Segment} {t u : DataType} {v w : Value}
    (hv : v.HasType t) (htype : segments.foldlM DataType.step? t = some u)
    (hw : follow raw v (segments.flatMap Segment.keys) = .ok w) : w.HasType u := by
  induction segments generalizing t v with
  | nil =>
    obtain rfl := Option.some.inj htype
    rw [List.flatMap_nil, follow_nil] at hw
    obtain rfl := Except.ok.inj hw
    exact hv
  | cons s segments ih =>
    rw [List.foldlM_cons] at htype
    obtain ⟨t', hstep, htype⟩ := Option.bind_eq_some_iff.1 htype
    rw [List.flatMap_cons, follow_append] at hw
    obtain ⟨v', hv', hw⟩ := Step.except_bind_eq_ok.1 hw
    exact ih (hasType_of_step? hv hstep hv') htype hw

/-- The type that a path leads to within the type of a value is said of what is read there. -/
theorem hasType_of_property? {path : Path} {t : DataType} {v w : Value} (hv : v.Conforms)
    (htype : v.dataType.property? path = some t) (hw : v.readAt path = .ok w) : w.HasType t :=
  hasType_of_foldlM (hasType_self hv) htype hw

end Value

end DynamicSql
