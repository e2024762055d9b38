import DynamicSql.Proofs.Path.Typed

/-!
# Reading what was written

What was written where a path leads is read there again (`Value.readAt_writeAt`), and a path that parts from
it reads what it read before (`Value.readAt_writeAt_of_apart`). Two paths part in a value where they first
differ, if the keys there name different properties. Paths that part go on to do so while values are written
at one of them, or at others that part from it (`Value.Apart.write`).
-/

namespace DynamicSql

namespace Value

/-! ### One property -/

/-- The keys name different properties of the value: different positions in a sequence, and elsewhere
different names. -/
def Distinct (v : Value) (key key' : String) : Prop :=
  match v.dataType with
  | .list | .set => position? key ≠ position? key'
  | _ => key ≠ key'

theorem Distinct.symm {v : Value} {key key' : String} (h : v.Distinct key key') : v.Distinct key' key := by
  rw [Distinct] at h ⊢
  split at h <;> exact Ne.symm h

theorem isNavigable_of_slot? {v : Value} {key : String} {r : Except DataError Slot}
    (h : v.slot? key = some r) : v.isNavigable = true := by
  cases v <;> first | rfl | cases h

theorem isNull_of_isNavigable {v : Value} (h : v.isNavigable = true) : v.isNull = false := by
  cases v <;> first | rfl | cases h

theorem isNavigable_congr {v w : Value} (h : v.dataType = w.dataType) : v.isNavigable = w.isNavigable := by
  have heq : ∀ u : Value, u.isNavigable =
      (u.dataType.schema?.isSome || u.dataType ∈ [.map, .list, .set]) := by
    intro u
    cases u <;> rfl
  rw [heq, heq, h]

theorem exists_slot? {v : Value} (h : v.isNavigable = true) (key : String) : ∃ r, v.slot? key = some r := by
  cases v <;> first | exact ⟨_, rfl⟩ | cases h

theorem follow_cons_of_isNavigable {v : Value} (h : v.isNavigable = true) (path key : String)
    (rest : List String) :
    follow path v (key :: rest) =
      (v.property key).mapError (onPath path) >>= fun w => follow path w rest := by
  obtain ⟨r, hr⟩ := exists_slot? h key
  rw [follow_cons (isNull_of_isNavigable h), property, hr]
  cases r <;> rfl

theorem property_of_slot? {v : Value} {key : String} {slot : Slot} (h : v.slot? key = some (.ok slot)) :
    v.property key = .ok slot.content := by
  rw [property, h]
  rfl

theorem property_record (schema : Schema) (values : List Value) (key : String) :
    (record schema values).property key =
      match (schema.indexOf? key).bind (values[·]?) with
      | some w => .ok w
      | none => .error (Record.noSuchField schema key) := by
  rw [property, slot?, Record.get?]
  cases schema.indexOf? key with
  | none => rfl
  | some i => cases h : values[i]? <;> simp [h, Except.map]

theorem property_map (entries : Table String Value) (key : String) :
    (map entries).property key = .ok ((entries.find? key).getD .null) := rfl

theorem slot?_items {rebuild : List Value → Value} (h : rebuild = .list ∨ rebuild = .set)
    (items : List Value) (key : String) :
    (rebuild items).slot? key = some (position? key >>= fun i =>
      match items[i]? with
      | some v => .ok ⟨v, fun w => rebuild (items.set i w)⟩
      | none => .error (.indexOutOfBounds key i items.length)) := by
  rcases h with rfl | rfl <;>
  · rw [slot?]
    refine congrArg some (congrArg (position? key >>= ·) (funext fun i => ?_))
    cases items[i]? <;> rfl

theorem property_items {rebuild : List Value → Value} (h : rebuild = .list ∨ rebuild = .set)
    (items : List Value) (key : String) :
    (rebuild items).property key = position? key >>= fun i =>
      match items[i]? with
      | some v => .ok v
      | none => .error (.indexOutOfBounds key i items.length) := by
  rw [property, slot?_items h]
  cases position? key with
  | error e => rfl
  | ok i =>
    show Except.map Slot.content (match items[i]? with | some v => _ | none => _) = match items[i]? with | some v => _ | none => _
    cases items[i]? <;> rfl

theorem slot?_items_eq_ok {rebuild : List Value → Value} (h : rebuild = .list ∨ rebuild = .set)
    {items : List Value} {key : String} {slot : Slot} (hslot : (rebuild items).slot? key = some (.ok slot)) :
    ∃ i, position? key = .ok i ∧ items[i]? = some slot.content ∧ ∀ w, slot.put w = rebuild (items.set i w) := by
  rw [slot?_items h] at hslot
  obtain ⟨i, hi, hslot⟩ := Step.except_bind_eq_ok.1 (Option.some.inj hslot)
  split at hslot
  · next v hv =>
    obtain rfl := Except.ok.inj hslot
    exact ⟨i, hi, hv, fun w => rfl⟩
  · cases hslot

theorem slot?_record_eq_ok {schema : Schema} {values : List Value} {key : String} {slot : Slot}
    (h : (record schema values).slot? key = some (.ok slot)) :
    ∃ i, schema.indexOf? key = some i ∧ values[i]? = some slot.content ∧
      ∀ w, slot.put w = .record schema (values.set i w) := by
  rw [slot?, Record.get?] at h
  cases hindex : schema.indexOf? key with
  | none =>
    rw [hindex] at h
    cases h
  | some i =>
    cases hv : values[i]? with
    | none => simp [hindex, hv] at h
    | some v =>
      simp [hindex, hv] at h
      obtain rfl := h
      exact ⟨i, rfl, hv, fun w => rfl⟩

theorem eq_of_indexOf? {schema : Schema} {key key' : String} {i : Nat} (h : schema.indexOf? key = some i)
    (h' : schema.indexOf? key' = some i) : key = key' := by
  obtain ⟨_, hkey, -⟩ := List.findIdx?_eq_some_iff_getElem.1 h
  obtain ⟨_, hkey', -⟩ := List.findIdx?_eq_some_iff_getElem.1 h'
  exact (of_decide_eq_true hkey).symm.trans (of_decide_eq_true hkey')

theorem property_items_set {rebuild : List Value → Value} (h : rebuild = .list ∨ rebuild = .set)
    {items : List Value} {key : String} {i : Nat} (hkey : position? key = .ok i) (hi : i < items.length)
    (w : Value) : (rebuild (items.set i w)).property key = .ok w := by
  rw [property_items h, hkey]
  show (match (items.set i w)[i]? with | some v => _ | none => _) = _
  rw [List.getElem?_set_self hi]

theorem property_items_set_of_ne {rebuild : List Value → Value} (h : rebuild = .list ∨ rebuild = .set)
    {items : List Value} {key : String} {i : Nat} (hkey : position? key ≠ .ok i) (w : Value) :
    (rebuild (items.set i w)).property key = (rebuild items).property key := by
  rw [property_items h, property_items h, List.length_set]
  cases hj : position? key with
  | error e => rfl
  | ok j =>
    have hne : i ≠ j := fun hij => hkey (hij ▸ hj)
    show (match (items.set i w)[j]? with | some v => _ | none => _) = _
    rw [List.getElem?_set_ne hne]
    rfl

theorem property_put {v : Value} {key : String} {slot : Slot} (h : v.slot? key = some (.ok slot))
    (w : Value) : (slot.put w).property key = .ok w := by
  cases v with
  | record schema values =>
    obtain ⟨i, hi, hvalue, hput⟩ := slot?_record_eq_ok h
    have hlt := (List.getElem?_eq_some_iff.1 hvalue).1
    rw [hput, property_record, hi, Option.bind_some, List.getElem?_set_self hlt]
  | map entries =>
    obtain rfl := Except.ok.inj (Option.some.inj h)
    rw [property_map, Table.find?_insert_self]
    rfl
  | list items =>
    obtain ⟨i, hi, hvalue, hput⟩ := slot?_items_eq_ok (.inl rfl) h
    rw [hput, property_items_set (.inl rfl) hi (List.getElem?_eq_some_iff.1 hvalue).1]
  | set items =>
    obtain ⟨i, hi, hvalue, hput⟩ := slot?_items_eq_ok (.inr rfl) h
    rw [hput, property_items_set (.inr rfl) hi (List.getElem?_eq_some_iff.1 hvalue).1]
  | _ => cases h

theorem property_put_of_distinct {v : Value} {key key' : String} {slot : Slot}
    (h : v.slot? key = some (.ok slot)) (hkeys : v.Distinct key key') (w : Value) :
    (slot.put w).property key' = v.property key' := by
  cases v with
  | record schema values =>
    obtain ⟨i, hi, -, hput⟩ := slot?_record_eq_ok h
    rw [hput, property_record, property_record]
    cases hj : schema.indexOf? key' with
    | none => rfl
    | some j =>
      have hne : i ≠ j := fun hij => hkeys (eq_of_indexOf? hi (hij ▸ hj))
      rw [Option.bind_some, Option.bind_some, List.getElem?_set_ne hne]
  | map entries =>
    obtain rfl := Except.ok.inj (Option.some.inj h)
    rw [property_map, property_map, Table.find?_insert_of_ne entries w hkeys.symm]
  | list items =>
    obtain ⟨i, hi, -, hput⟩ := slot?_items_eq_ok (.inl rfl) h
    rw [hput, property_items_set_of_ne (.inl rfl) fun hj => hkeys (hi.trans hj.symm)]
  | set items =>
    obtain ⟨i, hi, -, hput⟩ := slot?_items_eq_ok (.inr rfl) h
    rw [hput, property_items_set_of_ne (.inr rfl) fun hj => hkeys (hi.trans hj.symm)]
  | _ => cases h

theorem dataType_put {v : Value} {key : String} {slot : Slot} (h : v.slot? key = some (.ok slot))
    (w : Value) : (slot.put w).dataType = v.dataType := by
  cases v with
  | record schema values =>
    obtain ⟨i, -, -, hput⟩ := slot?_record_eq_ok h
    rw [hput]
    rfl
  | map entries =>
    obtain rfl := Except.ok.inj (Option.some.inj h)
    rfl
  | list items =>
    obtain ⟨i, -, -, hput⟩ := slot?_items_eq_ok (.inl rfl) h
    rw [hput]
    rfl
  | set items =>
    obtain ⟨i, -, -, hput⟩ := slot?_items_eq_ok (.inr rfl) h
    rw [hput]
    rfl
  | _ => cases h

theorem isNavigable_put {v : Value} {key : String} {slot : Slot} (h : v.slot? key = some (.ok slot))
    (w : Value) : (slot.put w).isNavigable = true := by
  have hread := property_put h w
  rw [property] at hread
  split at hread
  · next hslot => exact isNavigable_of_slot? hslot
  · cases hread

theorem distinct_put {v : Value} {key : String} {slot : Slot} (h : v.slot? key = some (.ok slot))
    (w : Value) (key₁ key₂ : String) : (slot.put w).Distinct key₁ key₂ ↔ v.Distinct key₁ key₂ := by
  rw [Distinct, Distinct, dataType_put h]

/-! ### Paths -/

/-- The keys part in the value: where they first differ, they name different properties of what the keys
before lead to. -/
def Apart : Value → List String → List String → Prop
  | v, key :: rest, key' :: rest' =>
    v.Distinct key key' ∨ key = key' ∧ ∀ path w, follow path v [key] = .ok w → Apart w rest rest'
  | _, _, _ => False

theorem not_apart_nil (v : Value) (keys : List String) : ¬ v.Apart [] keys ∧ ¬ v.Apart keys [] := by
  cases keys <;> exact ⟨nofun, nofun⟩

theorem apart_of_not_prefix {keys keys' : List String} (h : ¬ keys <+: keys') (h' : ¬ keys' <+: keys)
    (hspelled : ∀ key ∈ keys, ∀ key' ∈ keys', position? key = position? key' → key = key') (v : Value) :
    v.Apart keys keys' := by
  induction keys generalizing v keys' with
  | nil => exact absurd List.nil_prefix h
  | cons key rest ih =>
    cases keys' with
    | nil => exact absurd List.nil_prefix h'
    | cons key' rest' =>
      by_cases hkey : key = key'
      · subst hkey
        rw [List.prefix_cons_inj] at h h'
        exact .inr ⟨rfl, fun _ w _ => ih h h'
          (fun k hk k' hk' => hspelled k (.tail _ hk) k' (.tail _ hk')) w⟩
      · refine .inl ?_
        rw [Distinct]
        split
        · exact fun hposition => hkey (hspelled key (.head _) key' (.head _) hposition)
        · exact fun hposition => hkey (hspelled key (.head _) key' (.head _) hposition)
        · exact hkey

theorem follow_singleton {v : Value} (h : v.isNavigable = true) {path key : String} {w : Value} :
    follow path v [key] = .ok w ↔ v.property key = .ok w := by
  rw [follow_cons_of_isNavigable h, Step.except_bind_eq_ok]
  refine ⟨fun ⟨w', hw', hw⟩ => ?_, fun hw => ⟨w, Step.mapError_eq_ok.2 hw, follow_nil path w⟩⟩
  rw [follow_nil] at hw
  obtain rfl := Except.ok.inj hw
  exact Step.mapError_eq_ok.1 hw'

/-! ### Writing -/

/-- What a path that goes on as `rest` finds in a place: where null stands in its way, an empty map is put
first. -/
def opened (content : Value) (rest : List String) : Value :=
  if !rest.isEmpty && content.isNull then .map [] else content

theorem write_cons {v : Value} {key : String} {slot : Slot} (h : v.slot? key = some (.ok slot))
    (path : String) (new : Value) (rest : List String) :
    write path new v (key :: rest) =
      ⟨slot.put (write path new (slot.content.opened rest) rest).value,
        (write path new (slot.content.opened rest) rest).error⟩ := by
  rw [write, h]
  rfl

theorem write_cons_of_none {v : Value} {key : String} (h : ∀ slot, v.slot? key ≠ some (.ok slot))
    (path : String) (new : Value) (rest : List String) :
    (write path new v (key :: rest)).value = v ∧ (write path new v (key :: rest)).error ≠ none := by
  rw [write]
  split
  · exact ⟨rfl, nofun⟩
  · exact ⟨rfl, nofun⟩
  · next slot hslot => exact absurd hslot (h slot)

theorem follow_opened {keys : List String} (hkeys : keys ≠ []) (path : String) (content : Value)
    (rest : List String) : follow path (content.opened rest) keys = follow path content keys := by
  rw [opened]
  split
  · next h =>
    obtain rfl := eq_null_of_isNull (Bool.and_eq_true_iff.1 h).2
    cases keys with
    | nil => exact absurd rfl hkeys
    | cons key keys =>
      rw [follow_map_cons, Table.find?_nil, follow_null]
      exact follow_null path keys
  · rfl

theorem apart_opened (content : Value) (rest keys keys' : List String) :
    (content.opened rest).Apart keys keys' ↔ content.Apart keys keys' := by
  rw [opened]
  split
  · next h =>
    obtain rfl := eq_null_of_isNull (Bool.and_eq_true_iff.1 h).2
    cases keys <;> cases keys' <;> rfl
  · rfl

theorem follow_write {raw : String} {new v : Value} {keys : List String}
    (h : (write raw new v keys).error = none) (path : String) :
    follow path (write raw new v keys).value keys = .ok new := by
  induction keys generalizing v with
  | nil => exact follow_nil path new
  | cons key rest ih =>
    by_cases hslot : ∃ slot, v.slot? key = some (.ok slot)
    · obtain ⟨slot, hslot⟩ := hslot
      rw [write_cons hslot] at h ⊢
      rw [follow_cons_of_isNavigable (isNavigable_put hslot _), property_put hslot]
      exact ih h
    · exact absurd h (write_cons_of_none (not_exists.1 hslot) raw new rest).2

/-- What keys lead to that part from those written at is not touched. -/
theorem follow_write_of_apart {v : Value} {keys keys' : List String} (h : v.Apart keys keys')
    (raw : String) (new : Value) (path : String) :
    follow path (write raw new v keys').value keys = follow path v keys := by
  induction keys generalizing v keys' with
  | nil => cases (not_apart_nil v keys').1 h
  | cons key rest ih =>
    cases keys' with
    | nil => cases h
    | cons key' rest' =>
      by_cases hslot : ∃ slot, v.slot? key' = some (.ok slot)
      · obtain ⟨slot, hslot⟩ := hslot
        have hv := isNavigable_of_slot? hslot
        rw [write_cons hslot, follow_cons_of_isNavigable (isNavigable_put hslot _),
          follow_cons_of_isNavigable hv]
        rcases h with h | ⟨rfl, h⟩
        · rw [property_put_of_distinct hslot h.symm]
        · have hcontent := property_of_slot? hslot
          have hrest := h path slot.content ((follow_singleton hv).2 hcontent)
          have hne : rest ≠ [] := by
            rintro rfl
            exact (not_apart_nil _ _).1 hrest
          rw [property_put hslot, hcontent]
          exact (ih ((apart_opened slot.content rest' rest rest').2 hrest)).trans
            (follow_opened hne path slot.content rest')
      · rw [(write_cons_of_none (not_exists.1 hslot) raw new rest').1]

theorem Apart.write {v : Value} {keys keys' written : List String} (h : v.Apart keys keys')
    (hwritten : written = keys ∨ v.Apart keys written) (raw : String) (new : Value) :
    (Value.write raw new v written).value.Apart keys keys' := by
  induction keys generalizing v keys' written with
  | nil => cases (not_apart_nil v keys').1 h
  | cons key rest ih =>
    cases keys' with
    | nil => cases h
    | cons key' rest' =>
      cases written with
      | nil => rcases hwritten with h | h <;> cases h
      | cons key'' rest'' =>
        by_cases hslot : ∃ slot, v.slot? key'' = some (.ok slot)
        · obtain ⟨slot, hslot⟩ := hslot
          have hv := isNavigable_of_slot? hslot
          rw [write_cons hslot]
          refine h.imp (distinct_put hslot _ key key').2 fun ⟨hkey, h⟩ => ⟨hkey, fun path w hw => ?_⟩
          rw [follow_singleton (isNavigable_put hslot _)] at hw
          by_cases hdistinct : v.Distinct key key''
          · rw [property_put_of_distinct hslot hdistinct.symm] at hw
            exact h path w ((follow_singleton hv).2 hw)
          · have hbelow : key'' = key ∧ (rest'' = rest ∨ slot.content.Apart rest rest'') := by
              rcases hwritten with hwritten | hwritten
              · obtain ⟨rfl, rfl⟩ := List.cons.inj hwritten
                exact ⟨rfl, .inl rfl⟩
              · obtain ⟨rfl, hrest⟩ := hwritten.resolve_left hdistinct
                exact ⟨rfl, .inr (hrest path _ ((follow_singleton hv).2 (property_of_slot? hslot)))⟩
            obtain ⟨rfl, hbelow⟩ := hbelow
            rw [property_put hslot] at hw
            obtain rfl := Except.ok.inj hw
            have hrest := h path slot.content ((follow_singleton hv).2 (property_of_slot? hslot))
            exact ih ((apart_opened ..).2 hrest) (hbelow.imp_right (apart_opened ..).2)
        · rw [(write_cons_of_none (not_exists.1 hslot) raw new rest'').1]
          exact h

/-! ### Values at paths -/

variable {root : Value} {path path' : Path} {new : Value}

theorem writeAt_of_keys_ne_nil (h : path.keys ≠ []) (root new : Value) :
    root.writeAt path new = write path.raw new root path.keys := by
  rw [writeAt]
  cases hkeys : path.keys with
  | nil => exact absurd hkeys h
  | cons key rest => rfl

theorem keys_ne_nil_of_writeAt (h : (root.writeAt path new).error = none) : path.keys ≠ [] := by
  intro hkeys
  rw [writeAt, hkeys] at h
  cases h

theorem readAt_writeAt (h : (root.writeAt path new).error = none) :
    (root.writeAt path new).value.readAt path = .ok new := by
  have hne := keys_ne_nil_of_writeAt h
  rw [writeAt_of_keys_ne_nil hne] at h ⊢
  exact follow_write h path.raw

theorem readAt_writeAt_of_apart (h : root.Apart path.keys path'.keys) (new : Value) :
    (root.writeAt path' new).value.readAt path = root.readAt path := by
  have hkeys : path'.keys ≠ [] := fun hkeys => (not_apart_nil root path.keys).2 (hkeys ▸ h)
  rw [writeAt_of_keys_ne_nil hkeys]
  exact follow_write_of_apart h path'.raw new path.raw

theorem dataType_writeAt (h : (root.writeAt path new).error = none) :
    (root.writeAt path new).value.dataType = root.dataType := by
  have hne := keys_ne_nil_of_writeAt h
  rw [writeAt_of_keys_ne_nil hne] at h ⊢
  cases hkeys : path.keys with
  | nil => exact absurd hkeys hne
  | cons key rest =>
    by_cases hslot : ∃ slot, root.slot? key = some (.ok slot)
    · obtain ⟨slot, hslot⟩ := hslot
      rw [write_cons hslot]
      exact dataType_put hslot _
    · rw [(write_cons_of_none (not_exists.1 hslot) path.raw new rest).1]

theorem isNavigable_of_writeAt (h : (root.writeAt path new).error = none) : root.isNavigable = true := by
  have hne := keys_ne_nil_of_writeAt h
  rw [writeAt_of_keys_ne_nil hne] at h
  cases hkeys : path.keys with
  | nil => exact absurd hkeys hne
  | cons key rest =>
    rw [hkeys] at h
    by_cases hslot : ∃ slot, root.slot? key = some (.ok slot)
    · exact isNavigable_of_slot? hslot.choose_spec
    · exact absurd h (write_cons_of_none (not_exists.1 hslot) path.raw new rest).2

end Value

end DynamicSql
